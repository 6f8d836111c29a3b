import Botman.ChatbotSettings
import Botman.TenantContext
import Mathlib.Algebra.Order.Ring.Unbundled.Rat

/-!
`process_chat_message`: the conversation of a visitor is found or created, the
user's message stored, and the reply of a language model produced, at once or
as a stream, and stored in turn.

Language models, retrieval, translation and clocks are the environment of a
call.  Everything the call reads from and writes to the database is computed.
-/

namespace Botman.ChatService

open Botman.Library.KeyedTable
open Botman.Library.PythonValue
open Botman.DataModel
open Botman.TenantContext
open Botman.Prompts
open Botman.ChatbotSettings

/-- The exceptions that leave a call; `external` stands for those of the
services around it. -/
inductive ChatError where
  | typeError
  | attributeError
  | valueError
  | multipleObjectsReturned
  | integrityError
  | external
  deriving DecidableEq, Repr

/-- A usage dictionary that is not empty; a provider may leave counts out. -/
structure Usage where
  promptTokens : Option Int
  completionTokens : Option Int
  totalTokens : Option Int

/-- What the search hangs on a chunk, as far as the chat reads it. -/
structure SearchHit where
  content : String
  distance : Option ℚ
  combinedScore : Option ℚ

/-- `embed_text` followed, where it yields an embedding, by
`search_knowledge`. -/
inductive Retrieval where
  | raised
  | noEmbedding
  | chunks (hits : List SearchHit)

/-- What a blocking call of a language model returns. -/
inductive LlmAnswer where
  | raised
  | returned (text : Option String) (usage : Option Usage)

/-- A chunk of a provider's stream. -/
structure StreamChunk where
  text : Option String
  usage : Option Usage

/-- What a streaming call of a language model returns: an error text, alone or
in a tuple, or chunks that may end with an exception. -/
inductive LlmStream where
  | raised
  | message (text : String)
  | pair (text : String)
  | chunks (items : List StreamChunk) (failure : Option String) (metadata : Option Usage)

/-- The surroundings of one call.  The functions take the selected model
first.  `delivered` is the number of events after which the client closed the
stream, absent where it reads to the end. -/
structure ChatEnv where
  detect : Json → Json → Json × Json
  search : Json → Retrieval
  answer : Json → String → LlmAnswer
  stream : Json → String → LlmStream
  translate : Json → Option String → String → Option String
  delivered : Option Nat
  startedAt : Nat
  answeredAt : Nat
  latency : ℚ

/-- The arguments of a call, with the context of the thread that makes it. -/
structure ChatCall where
  tenant : Tenant
  bot : Chatbot
  visitorId : String
  message : Json
  stream : Bool
  previewMode : Bool

/-- `language.lower() == 'english'`: none of these letters is the lower case
of a character outside ASCII. -/
def isEnglish (language : String) : Bool :=
  language.toList.map Char.toLower = "english".toList

/-- What happens before the first query: the length of a live message is
logged, the language is detected, and the text to process chosen. -/
def prepare (env : ChatEnv) (call : ChatCall) : Except ChatError (String × Json) :=
  if call.previewMode = false ∧ (len call.message).isNone then .error .typeError
  else
    match env.detect (chatBot call.bot call.previewMode).selectedLlm call.message with
    | (.str language, translated) =>
        .ok (language, if isEnglish language then call.message else translated)
    | _ => .error .attributeError

/-- `Visitor.objects.get(external_id=...)`; the column is unique. -/
def findVisitor (db : Database) (externalId : String) : Option Visitor :=
  db.visitors.rows.find? fun v => v.externalId = externalId

def newVisitor (externalId : String) : Visitor :=
  { id := 0, externalId := externalId }

/-- `Visitor.objects.get_or_create`. -/
def getOrCreateVisitor (db : Database) (externalId : String) : Database × Visitor :=
  match findVisitor db externalId with
  | some visitor => (db, visitor)
  | none =>
      ({ db with visitors := db.visitors.create (newVisitor externalId) },
        db.visitors.created (newVisitor externalId))

/-- The lookup of the conversation. -/
def ChatCall.isFor (call : ChatCall) (c : Conversation) : Bool :=
  c.chatbot = call.bot.id ∧ c.visitorIdentifier = call.visitorId

theorem ChatCall.isFor_iff {call : ChatCall} {c : Conversation} :
    call.isFor c = true ↔
      c.chatbot = call.bot.id ∧ c.visitorIdentifier = call.visitorId :=
  decide_eq_true_iff

/-- The conversations that `get_or_create` finds; absent where the query raises. -/
def conversationsOf (db : Database) (call : ChatCall) : Option (List Conversation) :=
  (getQueryset db conversationModel call.tenant db.conversations.rows).map fun rows =>
    rows.filter call.isFor

/-- The row that `get_or_create` inserts. -/
def newConversation (env : ChatEnv) (call : ChatCall) (visitor : Visitor) :
    Conversation where
  id := 0
  chatbot := call.bot.id
  visitorIdentifier := call.visitorId
  visitor := some visitor.id
  session := none
  isPreview := call.previewMode
  startedAt := env.startedAt

def saveConversation (db : Database) (c : Conversation) : Database :=
  { db with conversations := db.conversations.save c }

/-- The flag of a conversation that was found follows the mode of the call. -/
def updatePreview (db : Database) (call : ChatCall) (c : Conversation) :
    Database × Conversation :=
  if c.isPreview ≠ call.previewMode then
    let updated := { c with isPreview := call.previewMode }
    (saveConversation db updated, updated)
  else (db, c)

/-- A conversation without a visitor is linked to the one of the call. -/
def linkVisitor (db : Database) (visitor : Visitor) (c : Conversation) :
    Database × Conversation :=
  if c.visitor = none then
    let linked := { c with visitor := some visitor.id }
    (saveConversation db linked, linked)
  else (db, c)

/-- `Conversation.objects.get_or_create` for a known visitor; a conversation
that was found is marked with the mode of the call and linked. -/
def openFor (env : ChatEnv) (db : Database) (call : ChatCall) (visitor : Visitor) :
    Database × Except ChatError Conversation :=
  match conversationsOf db call with
  | none => (db, .error .valueError)
  | some [] =>
      let row := newConversation env call visitor
      ({ db with conversations := db.conversations.create row },
        .ok (db.conversations.created row))
  | some [c] =>
      let marked := updatePreview db call c
      let linked := linkVisitor marked.1 visitor marked.2
      (linked.1, .ok linked.2)
  | some (_ :: _ :: _) => (db, .error .multipleObjectsReturned)

/-- The visitor and the conversation of a call, found or made. -/
def openConversation (env : ChatEnv) (db : Database) (call : ChatCall) :
    Database × Except ChatError Conversation :=
  let known := getOrCreateVisitor db call.visitorId
  openFor env known.1 call known.2

def userMessage (env : ChatEnv) (conversation : Nat) (content : String) : Message where
  id := 0
  conversation := conversation
  sender := .user
  content := content
  createdAt := env.startedAt
  latency := none
  tokenUsage := 0
  source := none
  confidenceScore := none

/-- `order_by('-created_at')`; messages of one time keep the order of their keys. -/
def newestFirst (messages : List Message) : List Message :=
  messages.mergeSort fun a b => b.createdAt ≤ a.createdAt

def historyLine (message : Message) : String :=
  (match message.sender with
    | .user => "User"
    | .bot => "Assistant") ++ ": " ++ message.content ++ "\n"

/-- `ContextBuilderService.get_conversation_history`. -/
def getConversationHistory (db : Database) (tenant : Tenant) (conversation : Nat)
    (limit : Nat) (excludeMessageId : Nat) : Option String :=
  (getQueryset db messageModel tenant db.messages.rows).map fun rows =>
    let rows := rows.filter fun m => m.conversation = conversation
    let rows :=
      if excludeMessageId ≠ 0 then rows.filter fun m => m.id ≠ excludeMessageId else rows
    join "" (((newestFirst rows).take limit).reverse.map historyLine)

/-- The context of an answer, with its source and the confidence in it. -/
structure Grounding where
  context : String
  source : String
  confidence : ℚ

/-- The confidence in the first chunk of the context. -/
def confidenceOf (hit : SearchHit) : ℚ :=
  match hit.distance, hit.combinedScore with
  | some distance, _ => max 0 (1 - distance)
  | none, some score => score
  | none, none => 0

/-- The context from what the search returns; absent where it raises. -/
def grounding : Retrieval → Option Grounding
  | .raised => none
  | .noEmbedding => some ⟨"", "ai_api", 0⟩
  | .chunks [] => some ⟨"", "ai_api", 0⟩
  | .chunks (hit :: hits) =>
      some ⟨join "\n\n" ((hit :: hits).map SearchHit.content), "knowledge",
        confidenceOf hit⟩

/-- An event of the stream to the client. -/
inductive SseEvent where
  | content (text : String)
  | error (message : String)
  deriving DecidableEq, Repr

/-- What the generator yields, and what it has accumulated at its end. -/
structure Streamed where
  events : List SseEvent
  fullResponse : String
  usage : Option Usage

/-- A stream that ends with an error, which becomes part of the answer. -/
def streamFailure (message : String) (usage : Option Usage) : Streamed :=
  ⟨[.error message], message, usage⟩

/-- A text that is delivered before the rest. -/
def Streamed.after (text : String) (rest : Streamed) : Streamed :=
  ⟨.content text :: rest.events, text ++ rest.fullResponse, rest.usage⟩

/-- The loop over the chunks of Gemini.  A chunk without text cannot be
appended. -/
def streamGemini (failure : Option String) (metadata : Option Usage) :
    List StreamChunk → Streamed
  | [] =>
      match failure with
      | none => ⟨[], "", metadata⟩
      | some e => streamFailure ("Error streaming from Gemini: " ++ e) none
  | chunk :: rest =>
      match chunk.text with
      | none =>
          streamFailure ("Error streaming from Gemini: " ++
            "can only concatenate str (not \"NoneType\") to str") none
      | some text => Streamed.after text (streamGemini failure metadata rest)

/-- The loop over the chunks of OpenAI.  A chunk without text is skipped, and
the last usage seen is kept. -/
def streamOpenAi (failure : Option String) (usage : Option Usage) :
    List StreamChunk → Streamed
  | [] =>
      match failure with
      | none => ⟨[], "", usage⟩
      | some e => streamFailure ("Error streaming from OpenAI: " ++ e) usage
  | chunk :: rest =>
      let seen := chunk.usage.or usage
      match chunk.text with
      | none => streamOpenAi failure seen rest
      | some text => Streamed.after text (streamOpenAi failure seen rest)

def isGemini : Json → Bool
  | .str s => s = "gemini"
  | _ => false

/-- The body of `stream_response_generator` up to the database.  Only the
branch for Gemini expects an error inside a tuple; the other one iterates over
it. -/
def streamResponse (selectedLlm : Json) : LlmStream → Option Streamed
  | .raised => none
  | .message text => some (streamFailure text none)
  | .pair text =>
      some (if isGemini selectedLlm then streamFailure text none
        else streamOpenAi (some "'str' object has no attribute 'choices'") none [])
  | .chunks items failure metadata =>
      some (if isGemini selectedLlm then streamGemini failure metadata items
        else streamOpenAi failure none items)

section Streams

variable {P : Streamed → Prop} (hended : ∀ usage, P ⟨[], "", usage⟩)
  (hfailed : ∀ message usage, P (streamFailure message usage))
  (hafter : ∀ text s, P s → P (Streamed.after text s))

include hended hfailed hafter

theorem streamGemini_induction (failure : Option String) (metadata : Option Usage)
    (items : List StreamChunk) : P (streamGemini failure metadata items) := by
  induction items with
  | nil =>
      cases failure with
      | none => exact hended metadata
      | some e => exact hfailed _ _
  | cons chunk rest ih =>
      rw [streamGemini]
      split
      · exact hfailed _ _
      · exact hafter _ _ ih

theorem streamOpenAi_induction (failure : Option String) (usage : Option Usage)
    (items : List StreamChunk) : P (streamOpenAi failure usage items) := by
  induction items generalizing usage with
  | nil =>
      cases failure with
      | none => exact hended usage
      | some e => exact hfailed _ _
  | cons chunk rest ih =>
      rw [streamOpenAi]
      split
      · exact ih _
      · exact hafter _ _ (ih _)

/-- What holds at the end of a stream and after a failure, and is kept when a
text is put in front, holds of every response that is streamed. -/
theorem streamResponse_induction {selectedLlm : Json} {stream : LlmStream} {s : Streamed}
    (h : streamResponse selectedLlm stream = some s) : P s := by
  cases stream with
  | raised => cases h
  | message text =>
      cases h
      exact hfailed _ _
  | pair text =>
      cases h
      split
      · exact hfailed _ _
      · exact streamOpenAi_induction hended hfailed hafter _ _ _
  | chunks items failure metadata =>
      cases h
      split
      · exact streamGemini_induction hended hfailed hafter _ _ _
      · exact streamOpenAi_induction hended hfailed hafter _ _ _

end Streams

/-- A row that is written after an answer was generated. -/
inductive ReplyWrite where
  | message (row : Message)
  | usage (row : TokenUsage)

/-- How a call ends. -/
inductive ChatResult where
  | raised (error : ChatError)
  | answered (text : String) (conversation : Conversation)
  | streaming (events : List SseEvent)

/-- What a call writes after its question, and how it ends. -/
structure Reply where
  writes : List ReplyWrite
  result : ChatResult

/-- The row of an answer. -/
def botMessage (env : ChatEnv) (conversation : Nat) (ground : Grounding)
    (content : String) (totalTokens : Int) : Message where
  id := 0
  conversation := conversation
  sender := .bot
  content := content
  createdAt := env.answeredAt
  latency := some env.latency
  tokenUsage := totalTokens
  source := some ground.source
  confidenceScore := some ground.confidence

/-- The usage row of a live reply; a row that the database refuses is given
up. -/
def usageRow (repr : Json → String) (call : ChatCall) (usage : Option Usage) :
    Option TokenUsage :=
  match usage with
  | none => none
  | some usage =>
      if call.previewMode then none
      else
        match textColumn repr (chatBot call.bot call.previewMode).selectedLlm,
          usage.promptTokens, usage.completionTokens, usage.totalTokens with
        | some provider, some tokensInput, some tokensOutput, some totalTokens =>
            some
              { id := 0
                chatbot := call.bot.id
                provider := provider
                tokensInput := tokensInput
                tokensOutput := tokensOutput
                totalTokens := totalTokens }
        | _, _, _, _ => none

/-- The tokens that are stored with an answer; absent where the usage has no total. -/
def totalTokens : Option Usage → Option Int
  | none => some 0
  | some usage => usage.totalTokens

/-- The rows that store a reply, absent where a column that takes no null
would be given one. -/
def replyWrites (repr : Json → String) (env : ChatEnv) (call : ChatCall)
    (conversation : Nat) (ground : Grounding) (content : Option String)
    (usage : Option Usage) : Option (List ReplyWrite) :=
  match content, totalTokens usage with
  | some content, some total =>
      some (.message (botMessage env conversation ground content total) ::
        ((usageRow repr call usage).map ReplyWrite.usage).toList)
  | _, _ => none

def failWith (error : ChatError) : Reply :=
  ⟨[], .raised error⟩

/-- The streamed reply.  A client that closes the stream ends the generator
before it stores anything. -/
def streamedReply (repr : Json → String) (env : ChatEnv) (call : ChatCall)
    (conversation : Conversation) (ground : Grounding) (prompt : String) : Reply :=
  let selectedLlm := (chatBot call.bot call.previewMode).selectedLlm
  match streamResponse selectedLlm (env.stream selectedLlm prompt) with
  | none => failWith .external
  | some streamed =>
      match env.delivered with
      | some count => ⟨[], .streaming (streamed.events.take count)⟩
      | none =>
          match replyWrites repr env call conversation.id ground
            (some streamed.fullResponse) streamed.usage with
          | none => failWith .integrityError
          | some writes => ⟨writes, .streaming streamed.events⟩

/-- The blocking reply, translated back and, where a stream was asked for,
handed out as a single event. -/
def blockingReply (repr : Json → String) (env : ChatEnv) (call : ChatCall)
    (conversation : Conversation) (ground : Grounding) (language prompt : String) :
    Reply :=
  let selectedLlm := (chatBot call.bot call.previewMode).selectedLlm
  match env.answer selectedLlm prompt with
  | .raised => failWith .external
  | .returned text usage =>
      let text := if isEnglish language then text else env.translate selectedLlm text language
      match text, replyWrites repr env call conversation.id ground text usage with
      | some text, some writes =>
          ⟨writes, if call.stream then .streaming [.content text]
            else .answered text conversation⟩
      | _, _ => failWith .integrityError

/-- The call once its question is stored: history, search, prompt, and the answer of
the language model. -/
def respond (repr : Json → String) (env : ChatEnv) (db : Database) (call : ChatCall)
    (language : String) (processing : Json) (conversation : Conversation)
    (userMessageId : Nat) : Reply :=
  match getConversationHistory db call.tenant conversation.id 10 userMessageId,
    grounding (env.search processing) with
  | none, _ => failWith .valueError
  | some _, none => failWith .external
  | some history, some ground =>
      match buildRagPrompt repr (chatBot call.bot call.previewMode) ground.context history
        processing with
      | none => failWith .attributeError
      | some prompt =>
          if call.stream ∧ isEnglish language then
            streamedReply repr env call conversation ground prompt
          else blockingReply repr env call conversation ground language prompt

def applyWrite (db : Database) : ReplyWrite → Database
  | .message row => { db with messages := db.messages.create row }
  | .usage row => { db with tokenUsages := db.tokenUsages.create row }

/-- What a call does in its conversation: the user's message is stored, then
the reply. -/
def converse (repr : Json → String) (env : ChatEnv) (db : Database) (call : ChatCall)
    (language : String) (processing : Json) (conversation : Conversation) :
    Database × ChatResult :=
  match textColumn repr call.message with
  | none => (db, .raised .integrityError)
  | some content =>
      let row := userMessage env conversation.id content
      let stored := { db with messages := db.messages.create row }
      let reply := respond repr env stored call language processing conversation
        (db.messages.created row).id
      (reply.writes.foldl applyWrite stored, reply.result)

/-- `process_chat_message`, and the consumption of the generator it may
return. -/
def processChatMessage (repr : Json → String) (env : ChatEnv) (db : Database)
    (call : ChatCall) : Database × ChatResult :=
  match prepare env call with
  | .error e => (db, .raised e)
  | .ok (language, processing) =>
      match openConversation env db call with
      | (db, .error e) => (db, .raised e)
      | (db, .ok conversation) =>
          converse repr env db call language processing conversation

end Botman.ChatService
