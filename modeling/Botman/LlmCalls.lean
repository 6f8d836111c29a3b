import Botman.Library.Retry
import Botman.ChatPrompt
import Botman.StreamAccounting

/-!
`call_gemini` and `call_openai`: retries, the second model and the second
provider, over any sequence of outcomes of the requests.

A blocking call makes its requests one after the other until it can return.  A
stream of Gemini is a generator: `call_gemini` returns it before any request is
made, and its one request happens, and fails, in the loop over the chunks.
-/

namespace Botman.LlmCalls

open Botman.Library.KeyedTable
open Botman.Library.PythonValue
open Botman.Library.Retry
open Botman.DataModel
open Botman.TenantContext
open Botman.ChatbotSettings
open Botman.ChatService
open Botman.ChatEffects
open Botman.ChatPrompt
open Botman.StreamAccounting

/-- What a model sends for a request that succeeds: the parts of its answer, a
chunk of a stream each, some of them without a text.  Reading the text may
raise. -/
structure ModelReply where
  parts : Except String (List (Option String))
  usage : Option Usage

/-- An `apiError` is a `ClientError` or a `ServerError` of google-genai. -/
inductive Outcome where
  | success (reply : ModelReply)
  | apiError (code : Option Nat) (message : String)
  | exception (message : String)

/-- The keys in the environment, where they are set. -/
structure ApiKeys where
  gemini : Option String
  openai : Option String

/-- `pattern in text`. -/
def containsChars (pattern : List Char) : List Char → Bool
  | [] => pattern.isEmpty
  | c :: rest => pattern.isPrefixOf (c :: rest) || containsChars pattern rest

/-- `not (not api_key or 'placeholder' in api_key)`. -/
def isUsable (apiKey : Option String) : Bool :=
  apiKey.any fun key => key ≠ "" && !containsChars "placeholder".toList key.toList

/-- `code in (429, 503)`. -/
def isBusy (code : Option Nat) : Bool :=
  code = some 429 || code = some 503

/-- The errors at which the call is repeated. -/
def asksAgain : Outcome → Bool
  | .apiError code _ => isBusy code
  | _ => false

/-- The property `text` of a reply, `None` where no part has one. -/
def textOf (parts : List (Option String)) : Option String :=
  if parts.all Option.isNone then none else some (concat (parts.filterMap id))

/-- What a blocking call returns: the answer of a request with its usage, the
apology for an answer that cannot be read, or an error text with an empty
usage. -/
inductive Returned where
  | answer (request : Nat) (text : Option String) (usage : Usage)
  | apology (usage : Usage)
  | errorText (text : String)

def apologyText : String :=
  "I'm sorry, I cannot generate a response to that prompt due to safety filters " ++
    "or an empty response."

/-- The pair that a call returns, as the chat reads it. -/
def Returned.result : Returned → LlmAnswer
  | .answer _ text usage => .returned text (some usage)
  | .apology usage => .returned (some apologyText) (some usage)
  | .errorText text => .returned (some text) none

section Blocking

variable (keys : ApiKeys) (requests : Nat → Outcome)

/-- `call_openai(prompt)`, from the request with the given number on. -/
def callOpenai (n : Nat) : Returned :=
  if isUsable keys.openai = false then .errorText "Error: OpenAI API key is missing."
  else
    match requests n with
    | .success reply =>
        match reply.usage, reply.parts with
        | none, _ =>
            .errorText ("Error calling OpenAI: " ++
              "'NoneType' object has no attribute 'prompt_tokens'")
        | some _, .error e => .errorText ("Error calling OpenAI: " ++ e)
        | some usage, .ok parts => .answer n (textOf parts) usage
    | .apiError _ e => .errorText ("Error calling OpenAI: " ++ e)
    | .exception e => .errorText ("Error calling OpenAI: " ++ e)

/-- `_execute_call`: at most three tries. -/
def executeCall (n : Nat) : Nat :=
  lastAttempt requests asksAgain 2 n

/-- The second model, and OpenAI where it raises, be it after the request. -/
def callFlashLite (n : Nat) : Returned :=
  let last := executeCall requests n
  match requests last with
  | .success reply =>
      match reply.usage, reply.parts with
      | some usage, .ok parts => .answer last (textOf parts) usage
      | _, _ => callOpenai keys requests (last + 1)
  | _ => callOpenai keys requests (last + 1)

/-- `call_gemini(prompt)`. -/
def callGemini : Returned :=
  if isUsable keys.gemini = false then .errorText "Error: Gemini API key is missing."
  else
    let last := executeCall requests 0
    match requests last with
    | .success reply =>
        match reply.usage, reply.parts with
        | none, _ =>
            .errorText ("Error calling Gemini: " ++
              "'NoneType' object has no attribute 'prompt_token_count'")
        | some usage, .error _ => .apology usage
        | some usage, .ok parts => .answer last (textOf parts) usage
    | .apiError code e =>
        if isBusy code then callFlashLite keys requests (last + 1)
        else .errorText ("Error calling Gemini: " ++ e)
    | .exception e => .errorText ("Error calling Gemini: " ++ e)

end Blocking

section Streaming

variable (keys : ApiKeys) (requests : Nat → Outcome)

def chunkOf (text : Option String) : StreamChunk where
  text := text
  usage := none

/-- `call_openai(prompt, stream=True)`: the request is made at once. -/
def callOpenaiStream : LlmStream :=
  if isUsable keys.openai = false then .pair "Error: OpenAI API key is missing."
  else
    match requests 0 with
    | .success reply =>
        match reply.parts with
        | .ok parts => .chunks (parts.map chunkOf ++ [⟨none, reply.usage⟩]) none none
        | .error e => .chunks [] (some e) none
    | .apiError _ e => .pair ("Error calling OpenAI: " ++ e)
    | .exception e => .pair ("Error calling OpenAI: " ++ e)

/-- What the loop over the generator of Gemini meets.  A generator has no
attribute `usage_metadata`. -/
def geminiStream : Outcome → LlmStream
  | .success reply =>
      match reply.parts with
      | .ok parts => .chunks (parts.map chunkOf) none none
      | .error e => .chunks [] (some e) none
  | .apiError _ e => .chunks [] (some e) none
  | .exception e => .chunks [] (some e) none

/-- `call_gemini(prompt, stream=True)`.  Nothing is raised where `backoff` and
the handlers could see it. -/
def callGeminiStream : LlmStream :=
  if isUsable keys.gemini = false then .pair "Error: Gemini API key is missing."
  else geminiStream (requests 0)

end Streaming

/-- A chat environment whose answers and streams come from requests to the
providers. -/
def requestEnv (keys : ApiKeys) (requests : Nat → Outcome) (env : ChatEnv) : ChatEnv :=
  { env with
    answer := fun selectedLlm _ =>
      if isGemini selectedLlm then (callGemini keys requests).result
      else (callOpenai keys requests 0).result
    stream := fun selectedLlm _ =>
      if isGemini selectedLlm then callGeminiStream keys requests
      else callOpenaiStream keys requests }

section Sources

variable {keys : ApiKeys} {requests : Nat → Outcome} {request : Nat} {text : Option String}
  {usage : Usage}

/-- A request whose outcome is the given answer. -/
def Gave (requests : Nat → Outcome) (request : Nat) (text : Option String) : Prop :=
  ∃ reply parts, requests request = .success reply ∧ reply.parts = .ok parts ∧
    text = textOf parts

theorem callOpenai_cases (keys : ApiKeys) (requests : Nat → Outcome) (n : Nat) :
    (∃ message, callOpenai keys requests n = .errorText message) ∨
      isUsable keys.openai = true ∧ ∃ reply parts used, requests n = .success reply ∧
        reply.parts = .ok parts ∧ reply.usage = some used ∧
        callOpenai keys requests n = .answer n (textOf parts) used := by
  unfold callOpenai
  split
  · exact Or.inl ⟨_, rfl⟩
  · rename_i husable
    rw [Bool.not_eq_false] at husable
    split
    · rename_i reply hreply
      split
      · exact Or.inl ⟨_, rfl⟩
      · exact Or.inl ⟨_, rfl⟩
      · rename_i used parts hused hparts
        exact Or.inr ⟨husable, reply, parts, used, hreply, hparts, hused, rfl⟩
    · exact Or.inl ⟨_, rfl⟩
    · exact Or.inl ⟨_, rfl⟩

theorem callFlashLite_cases (keys : ApiKeys) (requests : Nat → Outcome) (n : Nat) :
    callFlashLite keys requests n = callOpenai keys requests (executeCall requests n + 1) ∨
      ∃ reply parts used, requests (executeCall requests n) = .success reply ∧
        reply.parts = .ok parts ∧
        callFlashLite keys requests n = .answer (executeCall requests n) (textOf parts) used := by
  unfold callFlashLite
  dsimp only
  split
  · rename_i reply hreply
    split
    · rename_i used parts _ hparts
      exact Or.inr ⟨reply, parts, used, hreply, hparts, rfl⟩
    · exact Or.inl rfl
  · exact Or.inl rfl

theorem callGemini_cases (h : callGemini keys requests = .answer request text usage) :
    isUsable keys.gemini = true ∧
      (callFlashLite keys requests (executeCall requests 0 + 1) = .answer request text usage ∨
        request = executeCall requests 0 ∧ ∃ reply parts, requests request = .success reply ∧
          reply.parts = .ok parts ∧ text = textOf parts) := by
  unfold callGemini at h
  dsimp only at h
  split at h
  · cases h
  · rename_i husable
    rw [Bool.not_eq_false] at husable
    refine ⟨husable, ?_⟩
    split at h
    · rename_i reply hreply
      split at h
      · cases h
      · cases h
      · rename_i used parts _ hparts
        cases h
        exact Or.inr ⟨rfl, reply, parts, hreply, hparts, rfl⟩
    · split at h
      · exact Or.inl h
      · cases h
    · cases h

theorem gave_of_callOpenai {n : Nat}
    (h : callOpenai keys requests n = .answer request text usage) :
    Gave requests request text := by
  rcases callOpenai_cases keys requests n with
    ⟨message, herror⟩ | ⟨-, reply, parts, used, hreply, hparts, -, hanswer⟩
  · cases herror.symm.trans h
  · cases hanswer.symm.trans h
    exact ⟨reply, parts, hreply, hparts, rfl⟩

theorem gave_of_callFlashLite {n : Nat}
    (h : callFlashLite keys requests n = .answer request text usage) :
    Gave requests request text := by
  rcases callFlashLite_cases keys requests n with
    hopenai | ⟨reply, parts, used, hreply, hparts, hanswer⟩
  · exact gave_of_callOpenai (hopenai.symm.trans h)
  · cases hanswer.symm.trans h
    exact ⟨reply, parts, hreply, hparts, rfl⟩

theorem gave_of_callGemini (h : callGemini keys requests = .answer request text usage) :
    Gave requests request text := by
  rcases (callGemini_cases h).2 with hlite | ⟨-, reply, parts, hreply, hparts, htext⟩
  · exact gave_of_callFlashLite hlite
  · exact ⟨reply, parts, hreply, hparts, htext⟩

theorem usable_of_callGemini (h : callGemini keys requests = .answer request text usage) :
    isUsable keys.gemini = true :=
  (callGemini_cases h).1

theorem request_eq_zero_of_success {reply : ModelReply} (hfirst : requests 0 = .success reply)
    (h : callGemini keys requests = .answer request text usage) : request = 0 := by
  have hlast : executeCall requests 0 = 0 := by
    apply lastAttempt_of_settled
    rw [hfirst]
    rfl
  simp only [callGemini, hlast, hfirst] at h
  split at h
  · cases h
  · split at h
    · cases h
    · cases h
    · cases h
      rfl

end Sources

section Delivery

/-- The text after the first part without one. -/
def lostText (parts : List (Option String)) : String :=
  concat ((parts.dropWhile Option.isSome).filterMap id)

/-- The text before the first part without one. -/
def leadingText (parts : List (Option String)) : String :=
  concat ((parts.takeWhile Option.isSome).filterMap id)

theorem leadingText_append_lostText {parts : List (Option String)} {t : String}
    (h : some t = textOf parts) : leadingText parts ++ lostText parts = t := by
  unfold textOf at h
  split at h
  · cases h
  · rw [Option.some.inj h, leadingText, lostText, ← concat_append, ← List.filterMap_append,
      List.takeWhile_append_dropWhile]

theorem leadingText_eq_iff {parts : List (Option String)} {t : String}
    (h : some t = textOf parts) : leadingText parts = t ↔ lostText parts = "" := by
  have hlength := congrArg String.length (leadingText_append_lostText h)
  rw [String.length_append] at hlength
  constructor
  · intro hlead
    rw [hlead] at hlength
    exact String.length_eq_zero_iff.mp (by omega)
  · intro hlost
    rw [← leadingText_append_lostText h, hlost, String.append_empty]

theorem lostText_of_empty {parts : List (Option String)} (h : some "" = textOf parts) :
    lostText parts = "" := by
  have hlength := congrArg String.length (leadingText_append_lostText h)
  rw [String.length_append, String.length_empty] at hlength
  exact String.length_eq_zero_iff.mp (by omega)

theorem deliveredText_streamGemini (failure : Option String) (metadata : Option Usage)
    (parts : List (Option String)) :
    deliveredText (streamGemini failure metadata (parts.map chunkOf)).events =
      leadingText parts := by
  induction parts with
  | nil => cases failure <;> rfl
  | cons part rest ih =>
      cases part with
      | none => rfl
      | some text => exact congrArg (text ++ ·) ih

theorem usage_streamGemini (failure : Option String) (items : List StreamChunk) :
    (streamGemini failure none items).usage = none := by
  induction items with
  | nil => cases failure <;> rfl
  | cons chunk rest ih =>
      rw [streamGemini]
      split
      · rfl
      · exact ih

/-- What the first request leaves of its answer in the stream. -/
def streamedText : Outcome → String
  | .success reply =>
      match reply.parts with
      | .ok parts => leadingText parts
      | .error _ => ""
  | _ => ""

theorem streamResponse_geminiStream {selectedLlm : Json} (hgemini : isGemini selectedLlm = true)
    (outcome : Outcome) :
    ∃ s, streamResponse selectedLlm (geminiStream outcome) = some s ∧ s.usage = none ∧
      deliveredText s.events = streamedText outcome := by
  have hchunks : ∀ parts failure,
      ∃ s, streamResponse selectedLlm (.chunks (parts.map chunkOf) failure none) = some s ∧
        s.usage = none ∧ deliveredText s.events = leadingText parts := by
    intro parts failure
    refine ⟨streamGemini failure none (parts.map chunkOf), ?_, usage_streamGemini _ _,
      deliveredText_streamGemini _ _ _⟩
    simp only [streamResponse, hgemini, if_true]
  cases outcome with
  | success reply =>
      cases hparts : reply.parts with
      | ok parts => simpa only [geminiStream, streamedText, hparts] using hchunks parts none
      | error e =>
          simp only [geminiStream, streamedText, hparts]
          exact hchunks [] (some e)
  | apiError code e => exact hchunks [] (some e)
  | exception e => exact hchunks [] (some e)

variable (repr : Json → String) {env : ChatEnv} {call : ChatCall} {keys : ApiKeys}
  {requests : Nat → Outcome}

theorem streamedReply_gemini
    (hgemini : isGemini (chatBot call.bot call.previewMode).selectedLlm = true)
    (husable : isUsable keys.gemini = true) (hread : env.delivered = none)
    (conversation : Conversation) (ground : Grounding) (prompt : String) :
    ∃ events,
      (streamedReply repr (requestEnv keys requests env) call conversation ground prompt).result =
          .streaming events ∧
        deliveredText events = streamedText (requests 0) := by
  obtain ⟨s, hs, husage, htext⟩ := streamResponse_geminiStream hgemini (requests 0)
  refine ⟨s.events, ?_, htext⟩
  have hstream : (requestEnv keys requests env).stream
      (chatBot call.bot call.previewMode).selectedLlm prompt = geminiStream (requests 0) := by
    simp [requestEnv, hgemini, callGeminiStream, husable]
  have hdelivered : (requestEnv keys requests env).delivered = none := hread
  simp only [streamedReply, hstream, hs, hdelivered, husage, replyWrites, totalTokens]

theorem streaming_of_promptStage {db : Database} {stage : PromptStage}
    (hgemini : isGemini (chatBot call.bot call.previewMode).selectedLlm = true)
    (hlanguage : isEnglish stage.question.language = true)
    (husable : isUsable keys.gemini = true) (hread : env.delivered = none)
    (hstage : promptStage repr (requestEnv keys requests env) db { call with stream := true } =
      some stage) :
    ∃ events, (processChatMessage repr (requestEnv keys requests env) db
        { call with stream := true }).2 = .streaming events ∧
      deliveredText events = streamedText (requests 0) := by
  have hllm : isGemini (chatBot ({ call with stream := true } : ChatCall).bot
      call.previewMode).selectedLlm = true := hgemini
  obtain ⟨events, hevents, htext⟩ := streamedReply_gemini repr hllm husable hread
    stage.question.conversation stage.ground stage.prompt
  refine ⟨events, ?_, htext⟩
  rw [result_of_promptStage repr hstage, replyTo, if_pos ⟨rfl, hlanguage⟩]
  exact hevents

/-- The stream of a request has its whole answer: no text comes after a part
without one. -/
def StreamsWhole (outcome : Outcome) : Prop :=
  ∃ reply parts, outcome = .success reply ∧ reply.parts = .ok parts ∧ lostText parts = ""

theorem streamedText_eq_iff {request : Nat} {t : String} {usage : Usage}
    (h : callGemini keys requests = .answer request (some t) usage) :
    streamedText (requests 0) = t ↔ StreamsWhole (requests 0) ∨ t = "" := by
  -- only the first request matters for a stream
  cases hfirst : requests 0 with
  | success reply =>
      obtain ⟨given, parts, hgiven, hparts, htext⟩ := gave_of_callGemini h
      rw [request_eq_zero_of_success hfirst h, hfirst] at hgiven
      cases hgiven
      have hwhole : StreamsWhole (.success reply) ↔ lostText parts = "" := by
        constructor
        · rintro ⟨_, _, ⟨rfl⟩, hparts', hlost⟩
          rw [hparts] at hparts'
          cases hparts'
          exact hlost
        · intro hlost
          exact ⟨reply, parts, rfl, hparts, hlost⟩
      have hempty : t = "" → lostText parts = "" := by
        rintro rfl
        exact lostText_of_empty htext
      simp only [streamedText, hparts]
      rw [leadingText_eq_iff htext, hwhole, or_iff_left_of_imp hempty]
  | apiError code e =>
      have hnone : ¬ StreamsWhole (.apiError code e) := by
        rintro ⟨_, _, ⟨⟩, -⟩
      rw [or_iff_right hnone]
      exact eq_comm
  | exception e =>
      have hnone : ¬ StreamsWhole (.exception e) := by
        rintro ⟨_, _, ⟨⟩, -⟩
      rw [or_iff_right hnone]
      exact eq_comm

theorem answered_of_callGemini {stage : PromptStage} {request : Nat} {t : String}
    {usage : Usage} {answered : String} {conversation : Conversation}
    (hgemini : isGemini (chatBot call.bot call.previewMode).selectedLlm = true)
    (hlanguage : isEnglish stage.question.language = true)
    (hsource : callGemini keys requests = .answer request (some t) usage)
    (h : (replyTo repr (requestEnv keys requests env) { call with stream := false } stage).result =
      .answered answered conversation) : answered = t := by
  have hanswer : (requestEnv keys requests env).answer
      (chatBot call.bot call.previewMode).selectedLlm stage.prompt =
        .returned (some t) (some usage) := by
    simp [requestEnv, hgemini, hsource, Returned.result]
  simp only [replyTo, blockingReply, hanswer, hlanguage, Bool.false_eq_true, false_and, if_false,
    if_true] at h
  split at h
  · rename_i htext _
    cases htext
    cases h
    rfl
  · cases h

/-- A stream of Gemini delivers the answer of the blocking call exactly when the
first request streams all of it. -/
theorem stream_delivers_answer_iff {db : Database} {request : Nat} {t : String} {usage : Usage}
    {answered : String} {conversation : Conversation}
    (hgemini : isGemini (chatBot call.bot call.previewMode).selectedLlm = true)
    (henglish : ∀ language processing, prepare env call = .ok (language, processing) →
      isEnglish language = true)
    (hread : env.delivered = none)
    (hsource : callGemini keys requests = .answer request (some t) usage)
    (hblocking : (processChatMessage repr (requestEnv keys requests env) db
      { call with stream := false }).2 = .answered answered conversation) :
    answered = t ∧
      ∃ events, (processChatMessage repr (requestEnv keys requests env) db
          { call with stream := true }).2 = .streaming events ∧
        (deliveredText events = t ↔ StreamsWhole (requests 0) ∨ t = "") := by
  obtain ⟨stage, hstage⟩ := exists_promptStage repr (by
    intro e hraised
    rw [hraised] at hblocking
    cases hblocking)
  have hstream : promptStage repr (requestEnv keys requests env) db { call with stream := true } =
      some stage := hstage
  have hlanguage : isEnglish stage.question.language = true :=
    henglish _ _ (stages_of_question repr (question_of_promptStage repr hstage)).1
  rw [result_of_promptStage repr hstage] at hblocking
  refine ⟨answered_of_callGemini repr hgemini hlanguage hsource hblocking, ?_⟩
  obtain ⟨events, hevents, htext⟩ := streaming_of_promptStage repr hgemini hlanguage
    (usable_of_callGemini hsource) hread hstream
  refine ⟨events, hevents, ?_⟩
  rw [htext]
  exact streamedText_eq_iff hsource

end Delivery

section Outage

def geminiBot : Chatbot :=
  { supportBot with selectedLlm := "gemini" }

def geminiDb : Database :=
  { Database.empty with chatbots := Table.empty.create geminiBot }

def geminiCall : ChatCall :=
  { plainCall "visitor" false with bot := geminiBot }

def workingKeys : ApiKeys where
  gemini := some "key"
  openai := some "key"

/-- A reply in two parts, with its usage. -/
def helloReply : ModelReply where
  parts := .ok [some "Hel", some "lo."]
  usage := some ⟨some 3, some 2, some 5⟩

theorem showsBot_geminiDb : ShowsBot geminiDb clearTenantContext geminiBot.id :=
  ⟨[geminiBot], getQueryset_anonymous _ _ _ _ rfl rfl, geminiBot, by simp, rfl⟩

theorem exists_geminiStage (requests : Nat → Outcome) :
    ∃ stage, promptStage noRepr (requestEnv workingKeys requests plainEnv) geminiDb geminiCall =
        some stage ∧ stage.question.language = "English" := by
  have hprepare : prepare (requestEnv workingKeys requests plainEnv) geminiCall =
      .ok ("English", .str "Hi") := rfl
  have hnone : ∀ r ∈ geminiDb.conversations.rows, ∀ s ∈ geminiDb.conversations.rows,
      geminiCall.isFor r = true → geminiCall.isFor s = true → r.id = s.id :=
    fun r hr => absurd hr (List.not_mem_nil)
  obtain ⟨stage, hstage, hlanguage, -⟩ := exists_promptStage_of_shown noRepr hprepare
    showsBot_geminiDb hnone rfl rfl ⟨rfl, rfl⟩
  exact ⟨stage, hstage, hlanguage⟩

theorem geminiCall_answered {requests : Nat → Outcome} {request : Nat} {t : String}
    {usage : Usage} {total : Int}
    (hsource : callGemini workingKeys requests = .answer request (some t) usage)
    (htotal : usage.totalTokens = some total) :
    ∃ c, (processChatMessage noRepr (requestEnv workingKeys requests plainEnv) geminiDb
      { geminiCall with stream := false }).2 = .answered t c := by
  obtain ⟨stage, hstage, hlanguage⟩ := exists_geminiStage requests
  have hblocking : promptStage noRepr (requestEnv workingKeys requests plainEnv) geminiDb
      { geminiCall with stream := false } = some stage := hstage
  have hanswer : (requestEnv workingKeys requests plainEnv).answer
      (chatBot geminiBot false).selectedLlm stage.prompt = .returned (some t) (some usage) := by
    rw [← show (Returned.answer request (some t) usage).result = .returned (some t) (some usage)
      from rfl, ← hsource]
    rfl
  have henglish : isEnglish "English" = true := by decide
  refine ⟨stage.question.conversation, ?_⟩
  rw [result_of_promptStage noRepr hblocking]
  simp only [replyTo, blockingReply, hlanguage, henglish, geminiCall, plainCall, hanswer,
    Bool.false_eq_true, false_and, if_false, if_true, replyWrites, totalTokens, htotal]

/-- The first request is refused, and the second answers. -/
def busyOnce : Nat → Outcome
  | 0 => .apiError (some 429) "429 RESOURCE_EXHAUSTED"
  | _ => .success helloReply

/-- A blocking call gets over a first request that is refused, a stream does
not. -/
theorem busyOnce_breaks_stream :
    (∃ c, (processChatMessage noRepr (requestEnv workingKeys busyOnce plainEnv) geminiDb
        { geminiCall with stream := false }).2 = .answered "Hello." c) ∧
      ∃ events, (processChatMessage noRepr (requestEnv workingKeys busyOnce plainEnv) geminiDb
          { geminiCall with stream := true }).2 = .streaming events ∧
        deliveredText events = "" := by
  have hsource : callGemini workingKeys busyOnce =
      .answer 1 (some "Hello.") ⟨some 3, some 2, some 5⟩ := rfl
  obtain ⟨stage, hstage, hlanguage⟩ := exists_geminiStage busyOnce
  have henglish : isEnglish stage.question.language = true := by
    rw [hlanguage]
    decide
  refine ⟨geminiCall_answered hsource rfl, ?_⟩
  exact streaming_of_promptStage noRepr (by decide) henglish (by decide) rfl hstage

theorem helloReply_streams :
    ∃ c events, (processChatMessage noRepr
          (requestEnv workingKeys (fun _ => .success helloReply) plainEnv) geminiDb
          { geminiCall with stream := false }).2 = .answered "Hello." c ∧
      (processChatMessage noRepr
          (requestEnv workingKeys (fun _ => .success helloReply) plainEnv) geminiDb
          { geminiCall with stream := true }).2 = .streaming events ∧
      deliveredText events = "Hello." := by
  have hsource : callGemini workingKeys (fun _ => .success helloReply) =
      .answer 0 (some "Hello.") ⟨some 3, some 2, some 5⟩ := rfl
  obtain ⟨c, hblocking⟩ := geminiCall_answered hsource rfl
  obtain ⟨-, events, hstream, htext⟩ := stream_delivers_answer_iff noRepr (by decide)
    (by
      rintro _ _ ⟨rfl, rfl⟩
      decide) rfl hsource hblocking
  exact ⟨c, events, hblocking, hstream, htext.mpr (Or.inl ⟨helloReply, _, rfl, rfl, by decide⟩)⟩

end Outage

end Botman.LlmCalls
