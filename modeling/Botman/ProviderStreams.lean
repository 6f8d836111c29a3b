import Botman.LlmCalls

/-!
`stream_response_generator` at its border to the providers: the chunks of
Gemini, whose usage comes with the chunks, and the error values that
`call_gemini` and `call_openai` return in place of a stream.
-/

namespace Botman.ProviderStreams

open Botman.Library.KeyedTable
open Botman.Library.PythonValue
open Botman.DataModel
open Botman.ChatbotSettings
open Botman.ChatService
open Botman.ChatEffects
open Botman.StreamAccounting
open Botman.LlmCalls

theorem generator_of_reply {repr : Json → String} {env : ChatEnv} {call : ChatCall}
    {conversation : Conversation} {ground : Grounding} {prompt : String} {row : Message}
    {events : List SseEvent}
    (h : streamedReply repr env call conversation ground prompt =
      ⟨[.message row], .streaming events⟩) (db : Database) :
    let out := streamResponseGenerator repr env db call conversation ground prompt
    out.2 = .streaming events ∧
      out.1.messages.rows = db.messages.rows ++ [db.messages.created row] := by
  dsimp only
  rw [streamResponseGenerator, h]
  exact ⟨rfl, (foldl_applyWrite_reply db row none).1⟩

section Accounts

/-- The texts of the chunks that have one. -/
def chunkTexts (chunks : List StreamChunk) : List String :=
  chunks.filterMap StreamChunk.text

/-- The last usage that a chunk carries. -/
def chunkUsage (chunks : List StreamChunk) : Option Usage :=
  (chunks.filterMap StreamChunk.usage).getLast?

/-- One event for every text, and one message with all of them and the total of
the last usage. -/
structure Accounts (chunks : List StreamChunk) (conversation : Conversation) (db : Database)
    (out : Database × ChatResult) : Prop where
  events : out.2 = .streaming ((chunkTexts chunks).map SseEvent.content)
  message : ∃ m : Message, out.1.messages.rows = db.messages.rows ++ [m] ∧
    m.conversation = conversation.id ∧ m.sender = .bot ∧
    m.content = concat (chunkTexts chunks) ∧ some m.tokenUsage = totalTokens (chunkUsage chunks)

theorem streamGemini_of_texts {chunks : List StreamChunk}
    (h : ∀ chunk ∈ chunks, chunk.text.isSome = true) :
    streamGemini none none chunks =
      ⟨(chunkTexts chunks).map SseEvent.content, concat (chunkTexts chunks), none⟩ := by
  induction chunks with
  | nil => rfl
  | cons chunk rest ih =>
      obtain ⟨text, htext⟩ := Option.isSome_iff_exists.mp (h chunk List.mem_cons_self)
      have hrest := ih fun c hc => h c (List.mem_cons_of_mem chunk hc)
      have htexts : chunkTexts (chunk :: rest) = text :: chunkTexts rest :=
        List.filterMap_cons_some htext
      rw [streamGemini, htext, hrest, htexts]
      rfl

theorem error_mem_streamGemini {chunks : List StreamChunk}
    (h : ∃ chunk ∈ chunks, chunk.text = none) :
    ∃ message, SseEvent.error message ∈ (streamGemini none none chunks).events := by
  induction chunks with
  | nil =>
      obtain ⟨chunk, hmem, -⟩ := h
      cases hmem
  | cons chunk rest ih =>
      cases htext : chunk.text with
      | none =>
          rw [streamGemini, htext]
          exact ⟨_, List.mem_singleton.mpr rfl⟩
      | some text =>
          obtain ⟨textless, hmem, hnone⟩ := h
          have hrest : textless ∈ rest := by
            rcases List.mem_cons.mp hmem with rfl | hmem
            · rw [htext] at hnone
              cases hnone
            · exact hmem
          obtain ⟨message, herror⟩ := ih ⟨textless, hrest, hnone⟩
          rw [streamGemini, htext]
          exact ⟨message, List.mem_cons_of_mem _ herror⟩

variable (repr : Json → String) {env : ChatEnv} {call : ChatCall} {prompt : String}
  {chunks : List StreamChunk}

theorem streamedReply_chunks
    (hgemini : isGemini (chatBot call.bot call.previewMode).selectedLlm = true)
    (hread : env.delivered = none)
    (hstream : env.stream (chatBot call.bot call.previewMode).selectedLlm prompt =
      .chunks chunks none none) (conversation : Conversation) (ground : Grounding) :
    streamedReply repr env call conversation ground prompt =
      { writes := [.message (botMessage env conversation.id ground
          (streamGemini none none chunks).fullResponse 0)]
        result := .streaming (streamGemini none none chunks).events } := by
  simp only [streamedReply, hstream, streamResponse, hgemini, hread, replyWrites,
    usage_streamGemini, totalTokens, usageRow, if_true, Option.map_none, Option.toList_none]

/-- The accounts of a stream of Gemini are right exactly when every chunk has a
text and there are no tokens to account for. -/
theorem geminiStream_accounts_iff
    (hgemini : isGemini (chatBot call.bot call.previewMode).selectedLlm = true)
    (hread : env.delivered = none)
    (hstream : env.stream (chatBot call.bot call.previewMode).selectedLlm prompt =
      .chunks chunks none none) (db : Database) (conversation : Conversation)
    (ground : Grounding) :
    Accounts chunks conversation db
        (streamResponseGenerator repr env db call conversation ground prompt) ↔
      (∀ chunk ∈ chunks, chunk.text.isSome = true) ∧
        totalTokens (chunkUsage chunks) = some 0 := by
  obtain ⟨hevents, hrows⟩ := generator_of_reply
    (streamedReply_chunks repr hgemini hread hstream conversation ground) db
  constructor
  · intro h
    refine ⟨?_, ?_⟩
    · intro chunk hchunk
      cases htext : chunk.text with
      | some text => rfl
      | none =>
          obtain ⟨message, herror⟩ := error_mem_streamGemini ⟨chunk, hchunk, htext⟩
          rw [ChatResult.streaming.inj (hevents.symm.trans h.events)] at herror
          obtain ⟨text, -, hevent⟩ := List.mem_map.mp herror
          cases hevent
    · obtain ⟨m, hm, -, -, -, htotal⟩ := h.message
      cases List.append_cancel_left (hrows.symm.trans hm)
      exact htotal.symm
  · rintro ⟨htexts, htotal⟩
    have hloop := streamGemini_of_texts htexts
    refine ⟨by rw [hevents, hloop], _, hrows, rfl, rfl, ?_, htotal.symm⟩
    change (streamGemini none none chunks).fullResponse = _
    rw [hloop]

def greetingChunks : List StreamChunk :=
  [⟨some "Hel", none⟩, ⟨some "lo.", none⟩]

def chunkEnv (chunks : List StreamChunk) : ChatEnv :=
  { plainEnv with stream := fun _ _ => .chunks chunks none none }

theorem greetingChunks_accounted :
    Accounts greetingChunks visitorConversation geminiDb
      (streamResponseGenerator noRepr (chunkEnv greetingChunks) geminiDb geminiCall
        visitorConversation ⟨"", "ai_api", 0⟩ "Hi") := by
  have hstream : (chunkEnv greetingChunks).stream (chatBot geminiCall.bot false).selectedLlm "Hi" =
      .chunks greetingChunks none none := rfl
  exact (geminiStream_accounts_iff noRepr (by decide) rfl hstream geminiDb visitorConversation
    ⟨"", "ai_api", 0⟩).mpr ⟨by decide, rfl⟩

/-- A stream that ends with a chunk for the usage alone, as OpenAI sends it. -/
def countedChunks : List StreamChunk :=
  [⟨some "Hel", none⟩, ⟨some "lo.", none⟩, ⟨none, some ⟨some 3, some 2, some 5⟩⟩]

/-- The chunk without a text becomes an error, in the events and in the message,
and its tokens are not recorded. -/
theorem countedChunks_unaccounted :
    ∃ out, streamResponseGenerator noRepr (chunkEnv countedChunks) geminiDb geminiCall
        visitorConversation ⟨"", "ai_api", 0⟩ "Hi" = out ∧
      out.2 = .streaming [.content "Hel", .content "lo.",
        .error ("Error streaming from Gemini: " ++
          "can only concatenate str (not \"NoneType\") to str")] ∧
      ∃ m, out.1.messages.rows = [m] ∧
        m.content = "Hello." ++ ("Error streaming from Gemini: " ++
          "can only concatenate str (not \"NoneType\") to str") ∧
        m.tokenUsage = 0 ∧ totalTokens (chunkUsage countedChunks) = some 5 ∧
        ¬ Accounts countedChunks visitorConversation geminiDb out := by
  refine ⟨_, rfl, rfl, _, rfl, by decide, rfl, rfl, ?_⟩
  intro h
  exact absurd (ChatResult.streaming.inj h.events) (by decide)

end Accounts

section Errors

/-- The error reaches the client as the one event, and is stored as the one
message. -/
structure Forwards (text : String) (conversation : Conversation) (db : Database)
    (out : Database × ChatResult) : Prop where
  events : out.2 = .streaming [.error text]
  message : ∃ m : Message, out.1.messages.rows = db.messages.rows ++ [m] ∧
    m.conversation = conversation.id ∧ m.sender = .bot ∧ m.content = text

/-- What the loop for OpenAI makes of a pair with an error text. -/
def iteratedText : String :=
  "Error streaming from OpenAI: " ++ "'str' object has no attribute 'choices'"

variable (repr : Json → String) {env : ChatEnv} {call : ChatCall} {prompt text : String}

/-- What the client gets of an error text. -/
def shownError (selectedLlm : Json) (text : String) : String :=
  if isGemini selectedLlm then text else iteratedText

theorem streamResponse_pair (selectedLlm : Json) (text : String) :
    streamResponse selectedLlm (.pair text) =
      some (streamFailure (shownError selectedLlm text) none) := by
  cases hgemini : isGemini selectedLlm with
  | true => simp only [streamResponse, shownError, hgemini, if_true]
  | false =>
      simp only [streamResponse, shownError, hgemini, Bool.false_eq_true, if_false]
      rfl

theorem shownError_eq_iff {selectedLlm : Json} {text : String} :
    shownError selectedLlm text = text ↔ isGemini selectedLlm = true ∨ text = iteratedText := by
  unfold shownError
  split
  · rename_i hgemini
    exact iff_of_true rfl (Or.inl hgemini)
  · rename_i hgemini
    rw [or_iff_right hgemini]
    exact eq_comm

/-- An error value of a provider is forwarded exactly when Gemini is selected, or
when it happens to be the text that the loop for OpenAI makes of it. -/
theorem error_forwarded_iff (hread : env.delivered = none)
    (hstream : env.stream (chatBot call.bot call.previewMode).selectedLlm prompt = .pair text)
    (db : Database) (conversation : Conversation) (ground : Grounding) :
    Forwards text conversation db
        (streamResponseGenerator repr env db call conversation ground prompt) ↔
      isGemini (chatBot call.bot call.previewMode).selectedLlm = true ∨ text = iteratedText := by
  let shown := shownError (chatBot call.bot call.previewMode).selectedLlm text
  have hreply : streamedReply repr env call conversation ground prompt =
      ⟨[.message (botMessage env conversation.id ground shown 0)],
        .streaming [.error shown]⟩ := by
    simp only [streamedReply, hstream, streamResponse_pair, hread]
    rfl
  obtain ⟨hevents, hrows⟩ := generator_of_reply hreply db
  rw [← shownError_eq_iff]
  constructor
  · intro h
    exact SseEvent.error.inj (List.cons.inj (ChatResult.streaming.inj
      (hevents.symm.trans h.events))).1
  · intro h
    refine ⟨?_, _, hrows, rfl, rfl, h⟩
    rw [hevents, show shown = text from h]

theorem callOpenaiStream_ne_iterated (keys : ApiKeys) (requests : Nat → Outcome) :
    callOpenaiStream keys requests ≠ .pair iteratedText := by
  have hfailed : ∀ e, "Error calling OpenAI: " ++ e ≠ iteratedText := by
    intro e h
    have hstart : ("Error calling OpenAI: " ++ e).toList.take 7 = "Error c".toList := by
      rw [String.toList_append, List.take_append_of_le_length (by decide)]
      decide
    rw [h] at hstart
    revert hstart
    decide
  unfold callOpenaiStream
  split
  · intro h
    have htext := LlmStream.pair.inj h
    revert htext
    decide
  · split
    · split <;> intro h <;> cases h
    · intro h
      exact hfailed _ (LlmStream.pair.inj h)
    · intro h
      exact hfailed _ (LlmStream.pair.inj h)

def missingKeys : ApiKeys where
  gemini := none
  openai := none

def silentProvider (_ : Nat) : Outcome :=
  .exception "timeout"

theorem missingKey_forwarded :
    Forwards "Error: Gemini API key is missing." visitorConversation geminiDb
      (streamResponseGenerator noRepr (requestEnv missingKeys silentProvider plainEnv) geminiDb
        geminiCall visitorConversation ⟨"", "ai_api", 0⟩ "Hi") := by
  have hstream : (requestEnv missingKeys silentProvider plainEnv).stream
      (chatBot geminiCall.bot false).selectedLlm "Hi" =
        .pair "Error: Gemini API key is missing." := rfl
  exact (error_forwarded_iff noRepr rfl hstream geminiDb visitorConversation
    ⟨"", "ai_api", 0⟩).mpr (Or.inl (by decide))

/-- A chatbot with OpenAI does not: the pair is taken for a stream. -/
theorem missingKey_iterated :
    (requestEnv missingKeys silentProvider plainEnv).stream (.str "openai") "Hi" =
        .pair "Error: OpenAI API key is missing." ∧
      ∃ out, streamResponseGenerator noRepr (requestEnv missingKeys silentProvider plainEnv)
          supportDb (plainCall "visitor" false) visitorConversation ⟨"", "ai_api", 0⟩ "Hi" = out ∧
        out.2 = .streaming [.error iteratedText] ∧
        ¬ Forwards "Error: OpenAI API key is missing." visitorConversation supportDb out ∧
        ∃ m, out.1.messages.rows = [m] ∧ m.content = iteratedText := by
  refine ⟨rfl, _, rfl, rfl, ?_, _, rfl, rfl⟩
  intro h
  exact absurd (ChatResult.streaming.inj h.events) (by decide)

end Errors

end Botman.ProviderStreams
