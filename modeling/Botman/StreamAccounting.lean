import Botman.ChatEffects

/-!
What `stream_response_generator` yields and stores for a stream of OpenAI:
the events, the message and the usage row of every sequence of chunks, broken
off by an exception or not.
-/

namespace Botman.StreamAccounting

open Botman.Library.KeyedTable
open Botman.Library.PythonValue
open Botman.DataModel
open Botman.ChatbotSettings
open Botman.ChatService
open Botman.ChatEffects

/-- `CompletionUsage` of the OpenAI client: all three counts are there. -/
structure CompletionUsage where
  promptTokens : Int
  completionTokens : Int
  totalTokens : Int

/-- A `ChatCompletionChunk`: the text of its first choice, if it has one, and
the usage. -/
structure CompletionChunk where
  content : Option String
  usage : Option CompletionUsage

/-- The dictionary that is made of the usage. -/
def CompletionUsage.dict (usage : CompletionUsage) : Usage where
  promptTokens := some usage.promptTokens
  completionTokens := some usage.completionTokens
  totalTokens := some usage.totalTokens

/-- What the generator yields for a chunk. -/
def CompletionChunk.streamed (chunk : CompletionChunk) : StreamChunk where
  text := chunk.content
  usage := chunk.usage.map CompletionUsage.dict

/-- `stream_response_generator`, run until it is exhausted or closed. -/
def streamResponseGenerator (repr : Json → String) (env : ChatEnv) (db : Database)
    (call : ChatCall) (conversation : Conversation) (ground : Grounding) (prompt : String) :
    Database × ChatResult :=
  let reply := streamedReply repr env call conversation ground prompt
  (reply.writes.foldl applyWrite db, reply.result)

/-- The texts that the stream has brought. -/
def texts (chunks : List CompletionChunk) : List String :=
  chunks.filterMap CompletionChunk.content

/-- A later usage replaces an earlier one. -/
def lastUsage (chunks : List CompletionChunk) : Option CompletionUsage :=
  (chunks.filterMap CompletionChunk.usage).getLast?

/-- The text of an exception in the stream. -/
def errorText (failure : Option String) : Option String :=
  failure.map fun e => "Error streaming from OpenAI: " ++ e

def concat (parts : List String) : String :=
  parts.foldr (· ++ ·) ""

theorem concat_append (parts more : List String) :
    concat (parts ++ more) = concat parts ++ concat more := by
  induction parts with
  | nil => simp [concat]
  | cons part rest ih =>
      simp only [concat, List.cons_append, List.foldr_cons, String.append_assoc]
      exact congrArg (part ++ ·) ih

def contentOf : SseEvent → Option String
  | .content text => some text
  | .error _ => none

/-- The text that a client gets out of the events of a stream. -/
def deliveredText (events : List SseEvent) : String :=
  concat (events.filterMap contentOf)

section Loop

theorem lastUsage_cons (chunk : CompletionChunk) (rest : List CompletionChunk) :
    lastUsage (chunk :: rest) = (lastUsage rest).or chunk.usage := by
  unfold lastUsage
  rw [List.filterMap_cons]
  cases chunk.usage with
  | none => simp
  | some usage => simp [List.getLast?_cons, Option.or_some]

theorem lastUsage_isSome_iff (chunks : List CompletionChunk) :
    (lastUsage chunks).isSome = true ↔ ∃ chunk ∈ chunks, chunk.usage.isSome = true := by
  induction chunks with
  | nil => simp [lastUsage]
  | cons chunk rest ih =>
      rw [lastUsage_cons, Option.isSome_or, Bool.or_eq_true, ih, List.exists_mem_cons_iff,
        or_comm]

theorem streamOpenAi_eq (failure : Option String) (usage : Option Usage)
    (chunks : List CompletionChunk) :
    streamOpenAi failure usage (chunks.map CompletionChunk.streamed) =
      { events := (texts chunks).map SseEvent.content ++
          (errorText failure).toList.map SseEvent.error
        fullResponse := concat (texts chunks) ++ (errorText failure).getD ""
        usage := ((lastUsage chunks).map CompletionUsage.dict).or usage } := by
  induction chunks generalizing usage with
  | nil =>
      cases failure with
      | none => rfl
      | some e => simp [streamOpenAi, streamFailure, texts, lastUsage, errorText, concat]
  | cons chunk rest ih =>
      have husage : ((lastUsage (chunk :: rest)).map CompletionUsage.dict).or usage =
          ((lastUsage rest).map CompletionUsage.dict).or
            ((chunk.usage.map CompletionUsage.dict).or usage) := by
        rw [lastUsage_cons]
        cases lastUsage rest with
        | none => rfl
        | some last => rfl
      rw [husage, List.map_cons, streamOpenAi]
      cases hcontent : chunk.content with
      | none => simp [CompletionChunk.streamed, hcontent, ih, texts]
      | some text =>
          simp [CompletionChunk.streamed, hcontent, ih, texts, Streamed.after, concat,
            String.append_assoc]

end Loop

section Stored

variable (repr : Json → String) {env : ChatEnv} {call : ChatCall} (conversation : Conversation)
  (ground : Grounding) {prompt : String} {provider : String} {chunks : List CompletionChunk}
  {failure : Option String} {metadata : Option Usage}

/-- The row of `TokenUsage` for a usage. -/
def CompletionUsage.row (usage : CompletionUsage) (call : ChatCall) (provider : String) :
    TokenUsage where
  id := 0
  chatbot := call.bot.id
  provider := provider
  tokensInput := usage.promptTokens
  tokensOutput := usage.completionTokens
  totalTokens := usage.totalTokens

theorem totalTokens_dict (usage : Option CompletionUsage) :
    totalTokens (usage.map CompletionUsage.dict) =
      some ((usage.map CompletionUsage.totalTokens).getD 0) := by
  cases usage with
  | none => rfl
  | some usage => rfl

theorem usageRow_dict (hllm : (chatBot call.bot call.previewMode).selectedLlm = .str provider)
    (usage : Option CompletionUsage) :
    usageRow repr call (usage.map CompletionUsage.dict) =
      if call.previewMode then none else usage.map fun u => u.row call provider := by
  cases usage with
  | none => cases call.previewMode <;> rfl
  | some usage => simp [usageRow, hllm, textColumn, CompletionUsage.dict, CompletionUsage.row]

/-- The usage row of a live call, for the last usage of the chunks. -/
def storedUsage (call : ChatCall) (provider : String) (chunks : List CompletionChunk) :
    Option TokenUsage :=
  if call.previewMode then none else (lastUsage chunks).map fun usage => usage.row call provider

theorem storedUsage_isSome_iff (call : ChatCall) (provider : String)
    (chunks : List CompletionChunk) :
    (storedUsage call provider chunks).isSome = true ↔
      (∃ chunk ∈ chunks, chunk.usage.isSome = true) ∧ call.previewMode = false := by
  rw [← lastUsage_isSome_iff, storedUsage]
  cases call.previewMode with
  | true => simp
  | false => simp

/-- The message that a stream leaves: the texts, the exception, and the tokens of the
last usage. -/
def storedMessage (env : ChatEnv) (conversation : Conversation) (ground : Grounding)
    (chunks : List CompletionChunk) (failure : Option String) : Message :=
  botMessage env conversation.id ground
    (concat (texts chunks) ++ (errorText failure).getD "")
    (((lastUsage chunks).map CompletionUsage.totalTokens).getD 0)

theorem streamedReply_eq
    (hllm : (chatBot call.bot call.previewMode).selectedLlm = .str provider)
    (hprovider : provider ≠ "gemini") (hread : env.delivered = none)
    (hstream : env.stream (.str provider) prompt =
      .chunks (chunks.map CompletionChunk.streamed) failure metadata) :
    streamedReply repr env call conversation ground prompt =
      { writes :=
          .message (storedMessage env conversation ground chunks failure) ::
            ((storedUsage call provider chunks).map ReplyWrite.usage).toList
        result := .streaming ((texts chunks).map SseEvent.content ++
          (errorText failure).toList.map SseEvent.error) } := by
  have hgemini : isGemini (.str provider) = false := decide_eq_false hprovider
  have hloop := streamOpenAi_eq failure none chunks
  rw [Option.or_none] at hloop
  simp only [streamedReply, hllm, hstream, streamResponse, hgemini, hloop, hread, replyWrites,
    totalTokens_dict, usageRow_dict repr hllm, Bool.false_eq_true, if_false]
  rfl

theorem foldl_applyWrite_reply (db : Database) (row : Message) (usage : Option TokenUsage) :
    let out := (ReplyWrite.message row :: (usage.map ReplyWrite.usage).toList).foldl applyWrite db
    out.messages.rows = db.messages.rows ++ [db.messages.created row] ∧
      out.tokenUsages.rows =
        db.tokenUsages.rows ++ (usage.map db.tokenUsages.created).toList := by
  cases usage with
  | none => simp [applyWrite]
  | some usage => simp [applyWrite]

/-- The accounts of a stream of OpenAI: one event for each text and one for the
exception, one message with all of it, and one usage row of a live call with
usage. -/
theorem streamResponseGenerator_accounts
    (hllm : (chatBot call.bot call.previewMode).selectedLlm = .str provider)
    (hprovider : provider ≠ "gemini") (hread : env.delivered = none)
    (hstream : env.stream (.str provider) prompt =
      .chunks (chunks.map CompletionChunk.streamed) failure metadata) (db : Database) :
    let out := streamResponseGenerator repr env db call conversation ground prompt
    out.2 = .streaming ((texts chunks).map SseEvent.content ++
        (errorText failure).toList.map SseEvent.error) ∧
      (∃ m : Message, out.1.messages.rows = db.messages.rows ++ [m] ∧
        m.conversation = conversation.id ∧ m.sender = .bot ∧
        m.content = concat (texts chunks) ++ (errorText failure).getD "" ∧
        m.tokenUsage = ((lastUsage chunks).map CompletionUsage.totalTokens).getD 0 ∧
        m.source = some ground.source ∧ m.confidenceScore = some ground.confidence) ∧
      ∃ rows : List TokenUsage, out.1.tokenUsages.rows = db.tokenUsages.rows ++ rows ∧
        rows.length =
          if (∃ chunk ∈ chunks, chunk.usage.isSome = true) ∧ call.previewMode = false then 1
          else 0 := by
  intro out
  have hreply := streamedReply_eq repr conversation ground hllm hprovider hread hstream
  have hout : out = streamResponseGenerator repr env db call conversation ground prompt := rfl
  rw [streamResponseGenerator, hreply] at hout
  obtain ⟨hmessages, husages⟩ := foldl_applyWrite_reply db
    (storedMessage env conversation ground chunks failure) (storedUsage call provider chunks)
  rw [hout]
  refine ⟨rfl, ⟨_, hmessages, rfl, rfl, rfl, rfl, rfl, rfl⟩, _, husages, ?_⟩
  simp only [← storedUsage_isSome_iff call provider]
  cases storedUsage call provider chunks with
  | none => rfl
  | some row => rfl

end Stored

/-- A stream that counts its tokens before it breaks. -/
def brokenChunks : List CompletionChunk :=
  [⟨some "Hel", none⟩, ⟨none, some ⟨5, 2, 7⟩⟩, ⟨some "lo", none⟩]

def brokenEnv : ChatEnv :=
  { plainEnv with
    stream := fun _ _ => .chunks (brokenChunks.map CompletionChunk.streamed) (some "timeout") none }

def visitorConversation : Conversation where
  id := 1
  chatbot := 1
  visitorIdentifier := "visitor"
  visitor := some 1
  session := none
  isPreview := false
  startedAt := 0

theorem brokenStream_accounts :
    ∃ out, streamResponseGenerator noRepr brokenEnv supportDb (plainCall "visitor" false)
        visitorConversation ⟨"", "ai_api", 0⟩ "Hi" = out ∧
      out.2 = .streaming
        [.content "Hel", .content "lo", .error "Error streaming from OpenAI: timeout"] ∧
      (∃ m : Message, out.1.messages.rows = [m] ∧
        m.content = "HelloError streaming from OpenAI: timeout" ∧ m.tokenUsage = 7) ∧
      out.1.tokenUsages.rows.length = 1 := by
  have hllm : (chatBot (plainCall "visitor" false).bot false).selectedLlm = .str "openai" := rfl
  have hprovider : "openai" ≠ "gemini" := by decide
  have hstream : brokenEnv.stream (.str "openai") "Hi" =
      .chunks (brokenChunks.map CompletionChunk.streamed) (some "timeout") none := rfl
  obtain ⟨hevents, ⟨m, hmessages, -, -, hcontent, htokens, -, -⟩, rows, husages, hlength⟩ :=
    streamResponseGenerator_accounts noRepr visitorConversation ⟨"", "ai_api", 0⟩ hllm hprovider
      rfl hstream supportDb
  refine ⟨_, rfl, hevents, ⟨m, hmessages, hcontent.trans (by decide), htokens⟩, ?_⟩
  rw [husages, List.length_append, hlength]
  decide

end Botman.StreamAccounting
