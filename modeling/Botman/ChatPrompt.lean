import Botman.ChatEffects

/-!
A call of `process_chat_message` in stages: the question is stored in a
conversation, the prompt is built, and the language model replies to it.

The first two stages do not depend on how the reply is delivered.
-/

namespace Botman.ChatPrompt

open Botman.Library.KeyedTable
open Botman.Library.PythonValue
open Botman.DataModel
open Botman.TenantContext
open Botman.Prompts
open Botman.ChatbotSettings
open Botman.ChatService
open Botman.ChatEffects

/-- What is known once the question of a call can be stored. -/
structure Question where
  language : String
  processing : Json
  opened : Database
  conversation : Conversation
  content : String

/-- The question of a call, absent where the call ends before it is stored. -/
def question? (repr : Json → String) (env : ChatEnv) (db : Database) (call : ChatCall) :
    Option Question :=
  match prepare env call, openConversation env db call, textColumn repr call.message with
  | .ok (language, processing), (opened, .ok c), some content =>
      some ⟨language, processing, opened, c, content⟩
  | _, _, _ => none

/-- The row of the question. -/
def Question.row (env : ChatEnv) (q : Question) : Message :=
  userMessage env q.conversation.id q.content

/-- The database after the question was stored. -/
def Question.stored (env : ChatEnv) (q : Question) : Database :=
  { q.opened with messages := q.opened.messages.create (q.row env) }

/-- A question for which the language model is asked. -/
structure PromptStage where
  question : Question
  ground : Grounding
  prompt : String

/-- The part of `respond` before the language model. -/
def promptFor (repr : Json → String) (env : ChatEnv) (call : ChatCall) (q : Question) :
    Option PromptStage :=
  (getConversationHistory (q.stored env) call.tenant q.conversation.id 10
      (q.opened.messages.created (q.row env)).id).bind fun history =>
    (grounding (env.search q.processing)).bind fun ground =>
      (buildRagPrompt repr (chatBot call.bot call.previewMode) ground.context history
        q.processing).map fun prompt => ⟨q, ground, prompt⟩

/-- The prompt of a call, absent where the call does not get that far. -/
def promptStage (repr : Json → String) (env : ChatEnv) (db : Database) (call : ChatCall) :
    Option PromptStage :=
  (question? repr env db call).bind (promptFor repr env call)

/-- The reply to a prompt.  Only an English answer is streamed. -/
def replyTo (repr : Json → String) (env : ChatEnv) (call : ChatCall) (stage : PromptStage) :
    Reply :=
  if call.stream ∧ isEnglish stage.question.language then
    streamedReply repr env call stage.question.conversation stage.ground stage.prompt
  else
    blockingReply repr env call stage.question.conversation stage.ground
      stage.question.language stage.prompt

variable (repr : Json → String) {env : ChatEnv} {db : Database} {call : ChatCall}

/-- The reply that a stored question gets. -/
def respondTo (env : ChatEnv) (call : ChatCall) (q : Question) : Reply :=
  respond repr env (q.stored env) call q.language q.processing q.conversation
    (q.opened.messages.created (q.row env)).id

theorem stages_of_question {q : Question} (h : question? repr env db call = some q) :
    prepare env call = .ok (q.language, q.processing) ∧
      openConversation env db call = (q.opened, .ok q.conversation) ∧
      textColumn repr call.message = some q.content := by
  unfold question? at h
  split at h
  · rename_i hprepare hopen hcontent
    cases h
    exact ⟨hprepare, hopen, hcontent⟩
  · cases h

theorem processChatMessage_of_question {q : Question}
    (h : question? repr env db call = some q) :
    processChatMessage repr env db call =
      ((respondTo repr env call q).writes.foldl applyWrite (q.stored env),
        (respondTo repr env call q).result) := by
  obtain ⟨hprepare, hopen, hcontent⟩ := stages_of_question repr h
  rw [processChatMessage_of_ok repr hprepare (by rw [hopen]), hopen]
  simp only [converse, hcontent]
  rfl

theorem processChatMessage_of_no_question (h : question? repr env db call = none) :
    ∃ e, (processChatMessage repr env db call).2 = .raised e ∧
      (processChatMessage repr env db call).1.messages = db.messages := by
  have hmessages := openConversation_messages env db call
  cases hprepare : prepare env call with
  | error e => exact ⟨e, by simp only [processChatMessage, hprepare, and_self]⟩
  | ok text =>
      cases hopen : openConversation env db call with
      | mk opened found =>
          rw [hopen] at hmessages
          cases found with
          | error e =>
              simp only [processChatMessage, hprepare, hopen]
              exact ⟨e, rfl, hmessages⟩
          | ok c =>
              cases hcontent : textColumn repr call.message with
              | none =>
                  simp only [processChatMessage, hprepare, hopen, converse, hcontent]
                  exact ⟨_, rfl, hmessages⟩
              | some content => simp [question?, hprepare, hopen, hcontent] at h

theorem respondTo_of_prompt {q : Question} {stage : PromptStage}
    (h : promptFor repr env call q = some stage) :
    respondTo repr env call q = replyTo repr env call stage ∧ stage.question = q := by
  obtain ⟨history, hhistory, h⟩ := Option.bind_eq_some_iff.mp h
  obtain ⟨ground, hground, h⟩ := Option.bind_eq_some_iff.mp h
  obtain ⟨prompt, hprompt, rfl⟩ := Option.map_eq_some_iff.mp h
  refine ⟨?_, rfl⟩
  simp only [respondTo, respond, hhistory, hground, hprompt]
  rfl

theorem grounding_of_prompt {q : Question} {stage : PromptStage}
    (h : promptFor repr env call q = some stage) :
    grounding (env.search q.processing) = some stage.ground := by
  obtain ⟨history, -, h⟩ := Option.bind_eq_some_iff.mp h
  obtain ⟨ground, hground, h⟩ := Option.bind_eq_some_iff.mp h
  obtain ⟨prompt, -, rfl⟩ := Option.map_eq_some_iff.mp h
  exact hground

theorem respondTo_of_no_prompt {q : Question} (h : promptFor repr env call q = none) :
    ∃ e, respondTo repr env call q = failWith e := by
  unfold promptFor at h
  unfold respondTo respond
  cases hhistory : getConversationHistory (q.stored env) call.tenant q.conversation.id 10
      (q.opened.messages.created (q.row env)).id with
  | none => exact ⟨_, rfl⟩
  | some history =>
      cases hground : grounding (env.search q.processing) with
      | none => exact ⟨_, rfl⟩
      | some ground =>
          rw [hhistory, hground, Option.bind_some, Option.bind_some,
            Option.map_eq_none_iff] at h
          simp only [h]
          exact ⟨_, rfl⟩

theorem messages_of_question {q : Question} (h : question? repr env db call = some q) :
    (q.stored env).messages.rows = db.messages.rows ++ [db.messages.created (q.row env)] := by
  have hsame := openConversation_messages env db call
  rw [(stages_of_question repr h).2.1] at hsame
  rw [Question.stored, Table.rows_create, hsame]

theorem question_of_promptStage {stage : PromptStage}
    (h : promptStage repr env db call = some stage) :
    question? repr env db call = some stage.question := by
  obtain ⟨q, hquestion, hprompt⟩ := Option.bind_eq_some_iff.mp h
  rw [hquestion, (respondTo_of_prompt repr hprompt).2]

theorem result_of_promptStage {stage : PromptStage}
    (h : promptStage repr env db call = some stage) :
    (processChatMessage repr env db call).2 = (replyTo repr env call stage).result := by
  obtain ⟨q, hquestion, hprompt⟩ := Option.bind_eq_some_iff.mp h
  rw [processChatMessage_of_question repr hquestion, (respondTo_of_prompt repr hprompt).1]

theorem exists_promptStage (h : ∀ e, (processChatMessage repr env db call).2 ≠ .raised e) :
    ∃ stage, promptStage repr env db call = some stage := by
  cases hquestion : question? repr env db call with
  | none =>
      obtain ⟨e, hraised, -⟩ := processChatMessage_of_no_question repr hquestion
      exact absurd hraised (h e)
  | some q =>
      cases hprompt : promptFor repr env call q with
      | none =>
          obtain ⟨e, hfail⟩ := respondTo_of_no_prompt repr hprompt
          rw [processChatMessage_of_question repr hquestion, hfail] at h
          exact absurd rfl (h e)
      | some stage => exact ⟨stage, by rw [promptStage, hquestion, Option.bind_some, hprompt]⟩

theorem exists_promptStage_of_shown {language content : String} {processing : Json}
    {ground : Grounding} (hprepare : prepare env call = .ok (language, processing))
    (hshown : ShowsBot db call.tenant call.bot.id)
    (hone : ∀ r ∈ db.conversations.rows, ∀ s ∈ db.conversations.rows,
      call.isFor r = true → call.isFor s = true → r.id = s.id)
    (hcontent : textColumn repr call.message = some content)
    (hground : grounding (env.search processing) = some ground)
    (husable : UsableConfigs (chatBot call.bot call.previewMode)) :
    ∃ stage, promptStage repr env db call = some stage ∧
      stage.question.language = language ∧ stage.ground = ground := by
  obtain ⟨c, hc, -⟩ := openConversation_spec env hshown hone
  obtain ⟨visible, hvisible, -⟩ := hshown
  let q : Question := ⟨language, processing, (openConversation env db call).1, c, content⟩
  have hquestion : question? repr env db call = some q := by
    rw [question?, hprepare, ← Prod.mk.eta (p := openConversation env db call), hc, hcontent]
  obtain ⟨rows, hrows⟩ :=
    getQueryset_isSome hvisible (q.stored env) messageModel (q.stored env).messages.rows
  obtain ⟨history, hhistory⟩ : ∃ history, getConversationHistory (q.stored env) call.tenant
      q.conversation.id 10 (q.opened.messages.created (q.row env)).id = some history :=
    ⟨_, by rw [getConversationHistory, hrows, Option.map_some]⟩
  obtain ⟨prompt, hprompt⟩ := Option.isSome_iff_exists.mp
    ((buildRagPrompt_isSome_iff repr _ ground.context history processing).mpr husable)
  refine ⟨⟨q, ground, prompt⟩, ?_, rfl, rfl⟩
  rw [promptStage, hquestion, Option.bind_some, promptFor, hhistory, Option.bind_some, hground,
    Option.bind_some, hprompt, Option.map_some]

end Botman.ChatPrompt
