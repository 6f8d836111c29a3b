import Botman.Library.Transition
import Botman.ChatPrompt
import Botman.StreamAccounting

/-!
The messages of a conversation over a sequence of chat requests: a question is
stored before its reply is generated, and the reply once the generator has run
to its end.
-/

namespace Botman.AnswerRecords

open Botman.Library.KeyedTable
open Botman.Library.PythonValue
open Botman.Library.Transition
open Botman.DataModel
open Botman.TenantContext
open Botman.Prompts
open Botman.ChatbotSettings
open Botman.ChatService
open Botman.ChatEffects
open Botman.ChatPrompt
open Botman.StreamAccounting

/-- A call with the surroundings it is made in: the replies of the provider, and
how far the client reads. -/
structure Exchange where
  env : ChatEnv
  call : ChatCall

variable (repr : Json → String)

/-- What a call leaves in the database. -/
def handle (db : Database) (x : Exchange) : Database :=
  (processChatMessage repr x.env db x.call).1

/-- The messages of a conversation, in the order of their keys. -/
def messagesOf (db : Database) (conversation : Nat) : List Message :=
  db.messages.rows.filter fun m => m.conversation = conversation

/-- The text that the client of a call receives. -/
def resultText : ChatResult → String
  | .raised _ => ""
  | .answered text _ => text
  | .streaming events => deliveredText events

/-- What was delivered for each question that was stored, in order. -/
def deliveries (db : Database) (exchanges : List Exchange) : List String :=
  (visits (handle repr) db exchanges).filterMap fun visit =>
    (question? repr visit.2.env visit.1 visit.2.call).map fun _ =>
      resultText (processChatMessage repr visit.2.env visit.1 visit.2.call).2

/-- The text occurs in the content as a whole. -/
def Contains (content text : String) : Prop :=
  ∃ before after, content = before ++ text ++ after

/-- Questions and answers in turn, each answer with the text that was delivered
for its question. -/
inductive Recorded : List Message → List String → Prop where
  | nil : Recorded [] []
  | cons {question answer : Message} {text : String} {rest : List Message}
      {texts : List String} (hquestion : question.sender = .user)
      (hanswer : answer.sender = .bot) (htext : Contains answer.content text)
      (hrest : Recorded rest texts) : Recorded (question :: answer :: rest) (text :: texts)

theorem Recorded.snoc {messages : List Message} {texts : List String}
    (h : Recorded messages texts) {question answer : Message} {text : String}
    (hquestion : question.sender = .user) (hanswer : answer.sender = .bot)
    (htext : Contains answer.content text) :
    Recorded (messages ++ [question, answer]) (texts ++ [text]) := by
  induction h with
  | nil => exact .cons hquestion hanswer htext .nil
  | cons hquestion' hanswer' htext' _ ih => exact .cons hquestion' hanswer' htext' ih

theorem Recorded.answer_of_append {messages : List Message} {before : List String}
    (h : Recorded messages before) {question : Message} {rest : List Message}
    {texts : List String} (hmore : Recorded (messages ++ question :: rest) texts) :
    ∃ answer, rest.head? = some answer ∧ answer.sender = .bot := by
  induction h generalizing texts with
  | nil =>
      cases hmore with
      | cons _ hanswer _ _ => exact ⟨_, rfl, hanswer⟩
  | cons _ _ _ _ ih =>
      cases hmore with
      | cons _ _ _ hrest => exact ih hrest

section Replies

variable {env : ChatEnv} {call : ChatCall}

/-- The reply to a prompt is stored: a stream is read to its end, and the answer
has a text and, where it has a usage, a total. -/
def Completes (env : ChatEnv) (call : ChatCall) (stage : PromptStage) : Prop :=
  let selectedLlm := (chatBot call.bot call.previewMode).selectedLlm
  if call.stream ∧ isEnglish stage.question.language then
    env.delivered = none ∧ ∃ s, streamResponse selectedLlm (env.stream selectedLlm stage.prompt) =
      some s ∧ (totalTokens s.usage).isSome = true
  else
    ∃ text usage, env.answer selectedLlm stage.prompt = .returned text usage ∧
      (if isEnglish stage.question.language then text
        else env.translate selectedLlm text stage.question.language).isSome = true ∧
      (totalTokens usage).isSome = true

/-- The accumulated response starts with the texts of the events. -/
def KeepsDelivered (s : Streamed) : Prop :=
  ∃ rest, s.fullResponse = deliveredText s.events ++ rest

theorem keepsDelivered_streamResponse {selectedLlm : Json} {stream : LlmStream} {s : Streamed}
    (h : streamResponse selectedLlm stream = some s) : KeepsDelivered s := by
  refine streamResponse_induction (P := KeepsDelivered) ?_ ?_ ?_ h
  · intro usage
    exact ⟨"", rfl⟩
  · intro message usage
    exact ⟨message, (String.empty_append).symm⟩
  · rintro text s ⟨rest, hrest⟩
    have hevents : deliveredText (Streamed.after text s).events =
        text ++ deliveredText s.events := rfl
    refine ⟨rest, ?_⟩
    rw [hevents, String.append_assoc, ← hrest]
    rfl

/-- The reply writes one message of the bot, with the text that is delivered. -/
def StoresAnswer (env : ChatEnv) (stage : PromptStage) (reply : Reply) : Prop :=
  ∃ content total usage,
    reply.writes =
        .message (botMessage env stage.question.conversation.id stage.ground content total) ::
          (Option.map ReplyWrite.usage usage).toList ∧
      Contains content (resultText reply.result)

theorem storesAnswer_of_streamed {stage : PromptStage} {s : Streamed} {total : Int}
    (hread : env.delivered = none)
    (hs : streamResponse (chatBot call.bot call.previewMode).selectedLlm
      (env.stream (chatBot call.bot call.previewMode).selectedLlm stage.prompt) = some s)
    (htotal : totalTokens s.usage = some total) :
    StoresAnswer env stage
      (streamedReply repr env call stage.question.conversation stage.ground stage.prompt) := by
  obtain ⟨rest, hrest⟩ := keepsDelivered_streamResponse hs
  simp only [streamedReply, hs, hread, replyWrites, htotal]
  exact ⟨_, _, _, rfl, "", rest, by rw [String.empty_append]; exact hrest⟩

theorem storesAnswer_of_blocking {stage : PromptStage} {text : Option String} {final : String}
    {usage : Option Usage} {total : Int}
    (hanswer : env.answer (chatBot call.bot call.previewMode).selectedLlm stage.prompt =
      .returned text usage)
    (hfinal : (if isEnglish stage.question.language then text
      else env.translate (chatBot call.bot call.previewMode).selectedLlm text
        stage.question.language) = some final)
    (htotal : totalTokens usage = some total) :
    StoresAnswer env stage
      (blockingReply repr env call stage.question.conversation stage.ground
        stage.question.language stage.prompt) := by
  simp only [blockingReply, hanswer, hfinal, replyWrites, htotal]
  refine ⟨_, _, _, rfl, "", "", ?_⟩
  cases call.stream with
  | true => simp [resultText, deliveredText, contentOf, concat]
  | false => simp [resultText]

theorem storesAnswer_of_completes {stage : PromptStage} (h : Completes env call stage) :
    StoresAnswer env stage (replyTo repr env call stage) := by
  unfold Completes at h
  unfold replyTo
  dsimp only at h
  split at h
  · rename_i hstream
    obtain ⟨hread, s, hs, htotal⟩ := h
    obtain ⟨total, htotal⟩ := Option.isSome_iff_exists.mp htotal
    rw [if_pos hstream]
    exact storesAnswer_of_streamed repr hread hs htotal
  · rename_i hblock
    obtain ⟨text, usage, hanswer, hfinal, htotal⟩ := h
    obtain ⟨final, hfinal⟩ := Option.isSome_iff_exists.mp hfinal
    obtain ⟨total, htotal⟩ := Option.isSome_iff_exists.mp htotal
    rw [if_neg hblock]
    exact storesAnswer_of_blocking repr hanswer hfinal htotal

theorem replyWrites_of_no_total {conversation : Nat} {ground : Grounding}
    {content : Option String} {usage : Option Usage} (h : totalTokens usage = none) :
    replyWrites repr env call conversation ground content usage = none := by
  unfold replyWrites
  rw [h]
  split
  · rename_i htotal
    cases htotal
  · rfl

theorem writes_streamedReply {stage : PromptStage}
    (h : ¬ (env.delivered = none ∧ ∃ s,
      streamResponse (chatBot call.bot call.previewMode).selectedLlm
        (env.stream (chatBot call.bot call.previewMode).selectedLlm stage.prompt) = some s ∧
      (totalTokens s.usage).isSome = true)) :
    (streamedReply repr env call stage.question.conversation stage.ground
      stage.prompt).writes = [] := by
  unfold streamedReply
  dsimp only
  split
  · rfl
  · rename_i s hs
    split
    · rfl
    · rename_i hread
      cases htotal : totalTokens s.usage with
      | none =>
          rw [replyWrites_of_no_total repr htotal]
          rfl
      | some total => exact absurd ⟨hread, s, hs, by rw [htotal]; rfl⟩ h

theorem writes_blockingReply {stage : PromptStage}
    (h : ¬ ∃ text usage,
      env.answer (chatBot call.bot call.previewMode).selectedLlm stage.prompt =
        .returned text usage ∧
      (if isEnglish stage.question.language then text
        else env.translate (chatBot call.bot call.previewMode).selectedLlm text
          stage.question.language).isSome = true ∧
      (totalTokens usage).isSome = true) :
    (blockingReply repr env call stage.question.conversation stage.ground
      stage.question.language stage.prompt).writes = [] := by
  unfold blockingReply
  dsimp only
  split
  · rfl
  · rename_i text usage hanswer
    split
    · rename_i final writes hfinal hwrites
      cases htotal : totalTokens usage with
      | none =>
          rw [replyWrites_of_no_total repr htotal] at hwrites
          cases hwrites
      | some total =>
          exact absurd ⟨text, usage, hanswer, by rw [hfinal]; rfl, by rw [htotal]; rfl⟩ h
    · rfl

theorem writes_of_not_completes {stage : PromptStage} (h : ¬ Completes env call stage) :
    (replyTo repr env call stage).writes = [] := by
  unfold Completes at h
  unfold replyTo
  dsimp only at h
  split at h
  · rename_i hstream
    rw [if_pos hstream]
    exact writes_streamedReply repr h
  · rename_i hblock
    rw [if_neg hblock]
    exact writes_blockingReply repr h

end Replies

section Steps

variable {db : Database} {x : Exchange} {k : Nat}

/-- The question of an exchange, if it stores one, gets an answer that is
stored. -/
def Answered (db : Database) (x : Exchange) : Prop :=
  ∀ q, question? repr x.env db x.call = some q →
    ∃ stage, promptFor repr x.env x.call q = some stage ∧ Completes x.env x.call stage

/-- A question of the exchange goes to the conversation. -/
def OnConversation (k : Nat) (db : Database) (x : Exchange) : Prop :=
  ∀ q, question? repr x.env db x.call = some q → q.conversation.id = k

theorem rows_no_question (h : question? repr x.env db x.call = none) :
    (handle repr db x).messages.rows = db.messages.rows := by
  obtain ⟨e, -, hmessages⟩ := processChatMessage_of_no_question repr h
  rw [handle, hmessages]

theorem rows_answered {q : Question} (hq : question? repr x.env db x.call = some q)
    (h : Answered repr db x) :
    ∃ stage content total, promptFor repr x.env x.call q = some stage ∧
      (handle repr db x).messages.rows = db.messages.rows ++
        [db.messages.created (q.row x.env), (q.stored x.env).messages.created
          (botMessage x.env q.conversation.id stage.ground content total)] ∧
      Contains content (resultText (processChatMessage repr x.env db x.call).2) := by
  obtain ⟨stage, hprompt, hcompletes⟩ := h q hq
  obtain ⟨hreply, rfl⟩ := respondTo_of_prompt repr hprompt
  obtain ⟨content, total, usage, hwrites, htext⟩ := storesAnswer_of_completes repr hcompletes
  have hout := processChatMessage_of_question repr hq
  rw [hreply, hwrites] at hout
  refine ⟨stage, content, total, hprompt, ?_, ?_⟩
  · rw [handle, hout, (foldl_applyWrite_reply _ _ usage).1, messages_of_question repr hq,
      List.append_assoc]
    rfl
  · rw [hout]
    exact htext

theorem rows_unanswered {q : Question} (hq : question? repr x.env db x.call = some q)
    (h : ¬ Answered repr db x) :
    (handle repr db x).messages.rows =
      db.messages.rows ++ [db.messages.created (q.row x.env)] := by
  have hwrites : (respondTo repr x.env x.call q).writes = [] := by
    cases hprompt : promptFor repr x.env x.call q with
    | none =>
        obtain ⟨e, hfail⟩ := respondTo_of_no_prompt repr hprompt
        rw [hfail]
        rfl
    | some stage =>
        rw [(respondTo_of_prompt repr hprompt).1]
        refine writes_of_not_completes repr fun hcompletes => h ?_
        intro q' hq'
        cases hq.symm.trans hq'
        exact ⟨stage, hprompt, hcompletes⟩
  rw [handle, processChatMessage_of_question repr hq, hwrites]
  exact messages_of_question repr hq

theorem messagesOf_of_rows {after : Database} {new : List Message}
    (h : after.messages.rows = db.messages.rows ++ new)
    (hnew : ∀ m ∈ new, m.conversation = k) : messagesOf after k = messagesOf db k ++ new := by
  have hkept : (new.filter fun m => m.conversation = k) = new :=
    List.filter_eq_self.mpr fun m hm => decide_eq_true (hnew m hm)
  rw [messagesOf, h, List.filter_append, hkept, messagesOf]

theorem messagesOf_no_question (h : question? repr x.env db x.call = none) :
    messagesOf (handle repr db x) k = messagesOf db k := by
  rw [messagesOf, rows_no_question repr h, messagesOf]

theorem messagesOf_answered {q : Question} (hq : question? repr x.env db x.call = some q)
    (hk : q.conversation.id = k) (h : Answered repr db x) :
    ∃ question answer, messagesOf (handle repr db x) k = messagesOf db k ++ [question, answer] ∧
      question.sender = .user ∧ answer.sender = .bot ∧
      Contains answer.content (resultText (processChatMessage repr x.env db x.call).2) := by
  obtain ⟨stage, content, total, -, hrows, htext⟩ := rows_answered repr hq h
  refine ⟨_, _, messagesOf_of_rows hrows ?_, rfl, rfl, htext⟩
  intro m hm
  rcases List.mem_pair.mp hm with rfl | rfl
  · exact hk
  · exact hk

theorem messagesOf_unanswered {q : Question} (hq : question? repr x.env db x.call = some q)
    (hk : q.conversation.id = k) (h : ¬ Answered repr db x) :
    ∃ question, messagesOf (handle repr db x) k = messagesOf db k ++ [question] ∧
      question.sender = .user := by
  refine ⟨_, messagesOf_of_rows (rows_unanswered repr hq h) ?_, rfl⟩
  intro m hm
  rw [List.mem_singleton.mp hm]
  exact hk

end Steps

section Runs

variable {k : Nat}

theorem messagesOf_run {db : Database} {exchanges : List Exchange}
    (hone : ∀ visit ∈ visits (handle repr) db exchanges, OnConversation repr k visit.1 visit.2) :
    ∃ more, messagesOf (exchanges.foldl (handle repr) db) k = messagesOf db k ++ more ∧
      ∀ m, more.head? = some m → m.sender = .user := by
  induction exchanges generalizing db with
  | nil => exact ⟨[], by simp, by simp⟩
  | cons x rest ih =>
      obtain ⟨hx, hrest⟩ := List.forall_mem_cons.mp hone
      obtain ⟨more, hmore, hhead⟩ := ih hrest
      rw [List.foldl_cons, hmore]
      cases hq : question? repr x.env db x.call with
      | none => exact ⟨more, by rw [messagesOf_no_question repr hq], hhead⟩
      | some q =>
          by_cases hanswered : Answered repr db x
          · obtain ⟨question, answer, hadded, hsender, -⟩ :=
              messagesOf_answered repr hq (hx q hq) hanswered
            refine ⟨question :: answer :: more, by rw [hadded, List.append_assoc]; rfl, ?_⟩
            rintro m ⟨rfl⟩
            exact hsender
          · obtain ⟨question, hadded, hsender⟩ :=
              messagesOf_unanswered repr hq (hx q hq) hanswered
            refine ⟨question :: more, by rw [hadded, List.append_assoc]; rfl, ?_⟩
            rintro m ⟨rfl⟩
            exact hsender

/-- The conversation is recorded after a run exactly when every question of the
run got an answer that was stored. -/
theorem conversation_recorded_iff {db : Database} {before : List String}
    (hstart : Recorded (messagesOf db k) before) {exchanges : List Exchange}
    (hone : ∀ visit ∈ visits (handle repr) db exchanges, OnConversation repr k visit.1 visit.2) :
    Recorded (messagesOf (exchanges.foldl (handle repr) db) k)
        (before ++ deliveries repr db exchanges) ↔
      ∀ visit ∈ visits (handle repr) db exchanges, Answered repr visit.1 visit.2 := by
  induction exchanges generalizing db before with
  | nil => simpa [visits, deliveries] using hstart
  | cons x rest ih =>
      obtain ⟨hx, hrest⟩ := List.forall_mem_cons.mp hone
      rw [List.foldl_cons, visits, List.forall_mem_cons]
      cases hq : question? repr x.env db x.call with
      | none =>
          have hnext : Recorded (messagesOf (handle repr db x) k) before := by
            rw [messagesOf_no_question repr hq]
            exact hstart
          have hdeliveries : deliveries repr db (x :: rest) =
              deliveries repr (handle repr db x) rest := by
            simp [deliveries, visits, hq]
          have hanswered : Answered repr db x := by
            intro q hq'
            rw [hq] at hq'
            cases hq'
          rw [hdeliveries, ih hnext hrest]
          exact (and_iff_right hanswered).symm
      | some q =>
          have hdeliveries : deliveries repr db (x :: rest) =
              resultText (processChatMessage repr x.env db x.call).2 ::
                deliveries repr (handle repr db x) rest := by
            simp [deliveries, visits, hq]
          by_cases hanswered : Answered repr db x
          · obtain ⟨question, answer, hadded, hquestion, hanswer, htext⟩ :=
              messagesOf_answered repr hq (hx q hq) hanswered
            have hnext := hstart.snoc hquestion hanswer htext
            rw [← hadded] at hnext
            rw [hdeliveries, List.append_cons, ih hnext hrest]
            exact (and_iff_right hanswered).symm
          · obtain ⟨question, hadded, -⟩ := messagesOf_unanswered repr hq (hx q hq) hanswered
            obtain ⟨more, hmore, hhead⟩ := messagesOf_run repr hrest
            refine iff_of_false ?_ fun h => hanswered h.1
            intro hrecorded
            rw [hmore, hadded, List.append_assoc] at hrecorded
            obtain ⟨answer, hanswer, hbot⟩ := hstart.answer_of_append hrecorded
            have huser := hhead answer hanswer
            rw [hbot] at huser
            cases huser

end Runs

section Abandoned

/-- A plain exchange; `delivered` is where the client closes the stream. -/
def plainExchange (delivered : Option Nat) : Exchange where
  env := { plainEnv with delivered := delivered }
  call := plainCall "visitor" false

/-- The visitor of a plain exchange has no conversation yet, or the first one. -/
structure ReadyForVisitor (db : Database) : Prop where
  chatbots : db.chatbots = supportDb.chatbots
  one : ∀ r ∈ db.conversations.rows, ∀ s ∈ db.conversations.rows,
    (plainCall "visitor" false).isFor r = true → (plainCall "visitor" false).isFor s = true →
      r.id = s.id
  first : ((openConversation plainEnv db (plainCall "visitor" false)).2.toOption.map
    Conversation.id) = some 1

theorem ready_supportDb : ReadyForVisitor supportDb :=
  ⟨rfl, by decide, by decide⟩

variable {db : Database}

theorem exists_stage_plainExchange (h : ReadyForVisitor db) (delivered : Option Nat) :
    ∃ stage, promptStage noRepr (plainExchange delivered).env db
        (plainExchange delivered).call = some stage ∧ stage.question.language = "English" := by
  have hprepare : prepare (plainExchange delivered).env (plainExchange delivered).call =
      .ok ("English", .str "Hi") := rfl
  obtain ⟨stage, hstage, hlanguage, -⟩ := exists_promptStage_of_shown noRepr hprepare
    (showsBot_supportDb.of_chatbots h.chatbots) h.one rfl rfl ⟨rfl, rfl⟩
  exact ⟨stage, hstage, hlanguage⟩

theorem onConversation_plainExchange (h : ReadyForVisitor db) (delivered : Option Nat) :
    OnConversation noRepr 1 db (plainExchange delivered) := by
  intro q hq
  have hopen : openConversation plainEnv db (plainCall "visitor" false) =
      (q.opened, .ok q.conversation) := (stages_of_question noRepr hq).2.1
  have hfirst := h.first
  rw [hopen] at hfirst
  exact Option.some.inj hfirst

theorem answered_plainExchange (h : ReadyForVisitor db) :
    Answered noRepr db (plainExchange none) := by
  obtain ⟨stage, hstage, hlanguage⟩ := exists_stage_plainExchange h none
  intro q hq
  rw [promptStage, hq, Option.bind_some] at hstage
  have hstream : (plainExchange none).call.stream = true ∧
      isEnglish stage.question.language = true := ⟨rfl, by rw [hlanguage]; decide⟩
  refine ⟨stage, hstage, ?_⟩
  unfold Completes
  rw [if_pos hstream]
  exact ⟨rfl, _, rfl, rfl⟩

theorem ready_after_first : ReadyForVisitor (handle noRepr supportDb (plainExchange none)) :=
  ⟨rfl, by decide +kernel, by decide +kernel⟩

theorem plainExchanges_recorded :
    messagesOf supportDb 1 = [] ∧
      Recorded
        (messagesOf ([plainExchange none, plainExchange none].foldl (handle noRepr) supportDb) 1)
        (deliveries noRepr supportDb [plainExchange none, plainExchange none]) := by
  have hready : ∀ visit ∈ visits (handle noRepr) supportDb
      [plainExchange none, plainExchange none],
      visit.2 = plainExchange none ∧ ReadyForVisitor visit.1 := by
    intro visit hvisit
    rcases List.mem_pair.mp hvisit with rfl | rfl
    · exact ⟨rfl, ready_supportDb⟩
    · exact ⟨rfl, ready_after_first⟩
  have hstart : Recorded (messagesOf supportDb 1) [] := Recorded.nil
  refine ⟨rfl, (conversation_recorded_iff noRepr hstart ?_).mpr ?_⟩
  · intro visit hvisit
    obtain ⟨hplain, hdb⟩ := hready visit hvisit
    rw [hplain]
    exact onConversation_plainExchange hdb none
  · intro visit hvisit
    obtain ⟨hplain, hdb⟩ := hready visit hvisit
    rw [hplain]
    exact answered_plainExchange hdb

/-- A client that closes the stream after its only event has read the whole
answer, and leaves a question without one. -/
theorem closed_stream_not_recorded :
    resultText (processChatMessage noRepr (plainExchange (some 1)).env supportDb
        (plainExchange (some 1)).call).2 = "Hello." ∧
      messagesOf supportDb 1 = [] ∧
      ∃ question, messagesOf (handle noRepr supportDb (plainExchange (some 1))) 1 = [question] ∧
        question.sender = .user ∧ ∀ texts, ¬ Recorded [question] texts := by
  obtain ⟨stage, hstage, hlanguage⟩ := exists_stage_plainExchange ready_supportDb (some 1)
  have hstream : (plainExchange (some 1)).call.stream = true ∧
      isEnglish stage.question.language = true := ⟨rfl, by rw [hlanguage]; decide⟩
  have hquestion := question_of_promptStage noRepr hstage
  refine ⟨?_, rfl, ?_⟩
  · rw [result_of_promptStage noRepr hstage, replyTo, if_pos hstream]
    rfl
  · have hnot : ¬ Answered noRepr supportDb (plainExchange (some 1)) := by
      intro hanswered
      obtain ⟨found, hfound, hcompletes⟩ := hanswered _ hquestion
      rw [promptStage, hquestion, Option.bind_some, hfound] at hstage
      cases hstage
      unfold Completes at hcompletes
      rw [if_pos hstream] at hcompletes
      cases hcompletes.1
    obtain ⟨question, hmessages, hsender⟩ := messagesOf_unanswered noRepr hquestion
      (onConversation_plainExchange ready_supportDb (some 1) _ hquestion) hnot
    exact ⟨question, hmessages, hsender, fun _ hrecorded => by cases hrecorded⟩

end Abandoned

end Botman.AnswerRecords
