import Botman.ChatPrompt
import Botman.PublishedBehaviour

/-!
The preview of a draft against live traffic.  A question is handed to the same
language model in the same prompt whether the draft is previewed, asked live
right after it was published, or asked live without ever having been published.

The calls differ in the mark they leave on the conversation.  No query for the
history reads that mark.
-/

namespace Botman.PreviewFidelity

open Botman.Library.KeyedTable
open Botman.Library.PythonValue
open Botman.DataModel
open Botman.TenantContext
open Botman.Prompts
open Botman.ChatbotSettings
open Botman.ChatService
open Botman.ChatEffects
open Botman.ChatPrompt
open Botman.PublishedBehaviour

section Histories

/-- Two databases in which a conversation has the same history for everyone. -/
structure SameHistory (first second : Database) : Prop where
  messages : second.messages = first.messages
  owner : ∀ bot, ownerOfChatbot second bot = ownerOfChatbot first bot
  chatbot : ∀ conversation,
    (second.conversations.get? conversation).map Conversation.chatbot =
      (first.conversations.get? conversation).map Conversation.chatbot

variable {first second third : Database}

theorem SameHistory.symm (h : SameHistory first second) : SameHistory second first :=
  ⟨h.messages.symm, fun bot => (h.owner bot).symm, fun id => (h.chatbot id).symm⟩

theorem SameHistory.trans (h : SameHistory first second) (h' : SameHistory second third) :
    SameHistory first third :=
  ⟨h'.messages.trans h.messages, fun bot => (h'.owner bot).trans (h.owner bot),
    fun id => (h'.chatbot id).trans (h.chatbot id)⟩

theorem ownerOfConversation_eq_bind (db : Database) (conversation : Nat) :
    ownerOfConversation db conversation =
      ((db.conversations.get? conversation).map Conversation.chatbot).bind
        (ownerOfChatbot db) := by
  rw [ownerOfConversation, Option.bind_map]
  rfl

theorem SameHistory.ownerOfConversation (h : SameHistory first second) (conversation : Nat) :
    DataModel.ownerOfConversation second conversation =
      DataModel.ownerOfConversation first conversation := by
  rw [ownerOfConversation_eq_bind, ownerOfConversation_eq_bind, h.chatbot conversation,
    funext h.owner]

variable {R : Type}

theorem SameHistory.userFilter (h : SameHistory first second) (model : TenantModel R)
    (userId : Nat) :
    TenantContext.userFilter second model userId =
      TenantContext.userFilter first model userId := by
  funext r
  simp only [TenantContext.userFilter, h.owner, h.ownerOfConversation]

theorem SameHistory.botColumn (h : SameHistory first second) (model : TenantModel R) :
    TenantContext.botColumn second model = TenantContext.botColumn first model := by
  simp only [TenantContext.botColumn, h.chatbot]

theorem SameHistory.getQueryset (h : SameHistory first second) (model : TenantModel R)
    (tenant : Tenant) (rows : List R) :
    TenantContext.getQueryset second model tenant rows =
      TenantContext.getQueryset first model tenant rows := by
  simp only [TenantContext.getQueryset, rowsOfUser, h.userFilter, h.botColumn]

theorem SameHistory.getConversationHistory (h : SameHistory first second) (tenant : Tenant)
    (conversation limit excluded : Nat) :
    ChatService.getConversationHistory second tenant conversation limit excluded =
      ChatService.getConversationHistory first tenant conversation limit excluded := by
  simp only [ChatService.getConversationHistory, h.getQueryset, h.messages]

theorem SameHistory.createMessage (h : SameHistory first second) (row : Message) :
    SameHistory { first with messages := first.messages.create row }
      { second with messages := second.messages.create row } :=
  ⟨congrArg (fun messages => Table.create messages row) h.messages, h.owner, h.chatbot⟩

theorem sameHistory_saveConversation {db : Database} {c updated : Conversation}
    (hc : c ∈ db.conversations.rows) (hid : updated.id = c.id)
    (hchatbot : updated.chatbot = c.chatbot) :
    SameHistory db (saveConversation db updated) := by
  refine ⟨rfl, fun _ => rfl, ?_⟩
  exact db.conversations.map_get?_save Conversation.chatbot hc hid.symm hchatbot.symm

theorem sameHistory_updatePreview {db : Database} (call : ChatCall) {c : Conversation}
    (hc : c ∈ db.conversations.rows) : SameHistory db (updatePreview db call c).1 := by
  unfold updatePreview
  split
  · exact sameHistory_saveConversation hc rfl rfl
  · exact ⟨rfl, fun _ => rfl, fun _ => rfl⟩

theorem sameHistory_linkVisitor {db : Database} (visitor : Visitor) {c : Conversation}
    (hc : c ∈ db.conversations.rows) : SameHistory db (linkVisitor db visitor c).1 := by
  unfold linkVisitor
  split
  · exact sameHistory_saveConversation hc rfl rfl
  · exact ⟨rfl, fun _ => rfl, fun _ => rfl⟩

end Histories

section Calls

/-- A call put to a chatbot, in preview mode or live. -/
def putTo (call : ChatCall) (bot : Chatbot) (previewMode : Bool) : ChatCall :=
  { call with bot := bot, previewMode := previewMode }

/-- The tables that a call reads are the same, but for columns of a chatbot. -/
structure SameTables (before after : Database) : Prop where
  visitors : after.visitors = before.visitors
  conversations : after.conversations = before.conversations
  messages : after.messages = before.messages
  owner : ∀ bot, ownerOfChatbot after bot = ownerOfChatbot before bot

variable {before after : Database} {draft live : Chatbot} {call : ChatCall} {env : ChatEnv}

theorem SameTables.sameHistory (h : SameTables before after) : SameHistory before after :=
  ⟨h.messages, h.owner, fun id => by rw [h.conversations]⟩

theorem SameTables.getOrCreateVisitor (h : SameTables before after) (externalId : String) :
    SameTables (ChatService.getOrCreateVisitor before externalId).1
        (ChatService.getOrCreateVisitor after externalId).1 ∧
      (ChatService.getOrCreateVisitor after externalId).2 =
        (ChatService.getOrCreateVisitor before externalId).2 := by
  have hfind : findVisitor after externalId = findVisitor before externalId := by
    rw [findVisitor, findVisitor, h.visitors]
  unfold ChatService.getOrCreateVisitor
  rw [hfind]
  cases findVisitor before externalId with
  | some visitor => exact ⟨h, rfl⟩
  | none =>
      rw [h.visitors]
      exact ⟨⟨rfl, h.conversations, h.messages, h.owner⟩, rfl⟩

/-- Both calls are refused in the same way, or continue the same conversation. -/
inductive SameOpened : Database × Except ChatError Conversation →
    Database × Except ChatError Conversation → Prop
  | refused (first second : Database) (e : ChatError) :
      SameOpened (first, .error e) (second, .error e)
  | opened {first second : Database} {c d : Conversation} (h : SameHistory first second)
      (hid : d.id = c.id) : SameOpened (first, .ok c) (second, .ok d)

theorem conversationsOf_putTo (h : SameTables before after) (hid : live.id = draft.id) :
    conversationsOf after (putTo call live false) = conversationsOf before (putTo call draft true) := by
  have hfor : (putTo call live false).isFor = (putTo call draft true).isFor := by
    funext c
    rw [Bool.eq_iff_iff, ChatCall.isFor_iff, ChatCall.isFor_iff]
    simp only [putTo, hid]
  rw [conversationsOf, conversationsOf, hfor, h.sameHistory.getQueryset, h.conversations]
  rfl

theorem sameHistory_found {db : Database} (call : ChatCall) (visitor : Visitor)
    {c : Conversation} (hc : c ∈ db.conversations.rows) :
    let marked := updatePreview db call c
    SameHistory db (linkVisitor marked.1 visitor marked.2).1 ∧
      (linkVisitor marked.1 visitor marked.2).2.id = c.id := by
  intro marked
  have hmarked : marked.2 ∈ marked.1.conversations.rows :=
    (mem_updatePreview call hc marked.2).mpr (Or.inl rfl)
  constructor
  · exact (sameHistory_updatePreview call hc).trans (sameHistory_linkVisitor visitor hmarked)
  · exact (linkVisitor_same marked.1 call visitor marked.2).1.trans
      (updatePreview_same db call c).1

theorem sameOpened_created (h : SameTables before after) (hid : live.id = draft.id)
    (visitor : Visitor) :
    let row := newConversation env (putTo call draft true) visitor
    let row' := newConversation env (putTo call live false) visitor
    SameOpened
      ({ before with conversations := before.conversations.create row },
        .ok (before.conversations.created row))
      ({ after with conversations := after.conversations.create row' },
        .ok (after.conversations.created row')) := by
  intro row row'
  refine .opened ⟨h.messages, h.owner, ?_⟩ (by rw [h.conversations]; rfl)
  intro id
  have hrow : row'.chatbot = row.chatbot := hid
  dsimp only
  rw [h.conversations, Table.get?_create, Table.get?_create]
  cases before.conversations.get? id with
  | some c => rfl
  | none =>
      split
      · exact congrArg some hrow
      · rfl

theorem sameOpened_openFor (h : SameTables before after) (hid : live.id = draft.id)
    (visitor : Visitor) :
    SameOpened (openFor env before (putTo call draft true) visitor)
      (openFor env after (putTo call live false) visitor) := by
  unfold openFor
  rw [conversationsOf_putTo h hid]
  cases hfound : conversationsOf before (putTo call draft true) with
  | none => exact .refused _ _ _
  | some found =>
      rcases found with _ | ⟨c, _ | ⟨d, rest⟩⟩
      · exact sameOpened_created h hid visitor
      · have hc : c ∈ before.conversations.rows :=
          (mem_conversationsOf hfound c List.mem_cons_self).1
        have hc' : c ∈ after.conversations.rows := h.conversations ▸ hc
        refine .opened ?_ ?_
        · exact (sameHistory_found (putTo call draft true) visitor hc).1.symm.trans
            (h.sameHistory.trans (sameHistory_found (putTo call live false) visitor hc').1)
        · exact (sameHistory_found (putTo call live false) visitor hc').2.trans
            (sameHistory_found (putTo call draft true) visitor hc).2.symm
      · exact .refused _ _ _

theorem sameOpened_openConversation (h : SameTables before after) (hid : live.id = draft.id) :
    SameOpened (openConversation env before (putTo call draft true))
      (openConversation env after (putTo call live false)) := by
  obtain ⟨hknown, hvisitor⟩ := h.getOrCreateVisitor call.visitorId
  have hopened : SameOpened
      (openFor env (ChatService.getOrCreateVisitor before call.visitorId).1
        (putTo call draft true) (ChatService.getOrCreateVisitor before call.visitorId).2)
      (openFor env (ChatService.getOrCreateVisitor after call.visitorId).1
        (putTo call live false) (ChatService.getOrCreateVisitor after call.visitorId).2) := by
    rw [hvisitor]
    exact sameOpened_openFor hknown hid _
  exact hopened

/-- Questions that differ in no text and in no history. -/
structure SameQuestion (first second : Question) : Prop where
  processing : second.processing = first.processing
  content : second.content = first.content
  conversation : second.conversation.id = first.conversation.id
  opened : SameHistory first.opened second.opened

theorem prepare_putTo (hsized : (len call.message).isSome = true)
    (hbot : chatBot live false = chatBot draft true) :
    prepare env (putTo call live false) = prepare env (putTo call draft true) := by
  have hlen : (len call.message).isNone = false := by
    rw [← Option.not_isSome, hsized, Bool.not_true]
  simp [prepare, putTo, hbot, hlen]

variable (repr : Json → String)

theorem sameQuestion_putTo (h : SameTables before after) (hid : live.id = draft.id)
    (hsized : (len call.message).isSome = true)
    (hbot : chatBot live false = chatBot draft true) :
    Option.Rel SameQuestion (question? repr env before (putTo call draft true))
      (question? repr env after (putTo call live false)) := by
  have hopened : SameOpened (openConversation env before (putTo call draft true))
      (openConversation env after (putTo call live false)) :=
    sameOpened_openConversation h hid
  have hcontent : textColumn repr (putTo call live false).message =
      textColumn repr (putTo call draft true).message := rfl
  unfold question?
  rw [prepare_putTo hsized hbot, hcontent]
  generalize openConversation env before (putTo call draft true) = first at hopened ⊢
  generalize openConversation env after (putTo call live false) = second at hopened ⊢
  cases prepare env (putTo call draft true) with
  | error e => exact .none
  | ok text =>
      cases hopened with
      | refused e => exact .none
      | opened hsame hkey =>
          cases textColumn repr (putTo call draft true).message with
          | none => exact .none
          | some content => exact .some ⟨rfl, rfl, hkey, hsame⟩

theorem promptFor_putTo {q r : Question} (h : SameQuestion q r)
    (hbot : chatBot live false = chatBot draft true) :
    (promptFor repr env (putTo call live false) r).map PromptStage.prompt =
      (promptFor repr env (putTo call draft true) q).map PromptStage.prompt := by
  have hrow : r.row env = q.row env := by
    rw [Question.row, Question.row, h.conversation, h.content]
  have hstored : SameHistory (q.stored env) (r.stored env) := by
    have hcreated := h.opened.createMessage (q.row env)
    rw [Question.stored, Question.stored, hrow]
    exact hcreated
  have hexcluded : (r.opened.messages.created (r.row env)).id =
      (q.opened.messages.created (q.row env)).id := by
    rw [hrow, h.opened.messages]
  simp only [promptFor, putTo, hstored.getConversationHistory, h.conversation, hexcluded,
    h.processing, hbot, Option.map_bind, Option.map_map, Function.comp_def]

theorem promptStage_putTo (h : SameTables before after) (hid : live.id = draft.id)
    (hsized : (len call.message).isSome = true)
    (hbot : chatBot live false = chatBot draft true) :
    (promptStage repr env after (putTo call live false)).map PromptStage.prompt =
      (promptStage repr env before (putTo call draft true)).map PromptStage.prompt := by
  have hquestion : Option.Rel SameQuestion
      (question? repr env before (putTo call draft true))
      (question? repr env after (putTo call live false)) :=
    sameQuestion_putTo repr h hid hsized hbot
  rw [promptStage, promptStage]
  generalize question? repr env before (putTo call draft true) = first at hquestion ⊢
  generalize question? repr env after (putTo call live false) = second at hquestion ⊢
  cases hquestion with
  | none => rw [Option.bind_none, Option.bind_none]
  | some hsame =>
      rw [Option.bind_some, Option.bind_some]
      exact promptFor_putTo repr hsame hbot

/-- What a call hands to its language model: which model it is, and the
prompt. -/
def handed (env : ChatEnv) (db : Database) (call : ChatCall) : Option (Json × String) :=
  (promptStage repr env db call).map fun stage =>
    ((chatBot call.bot call.previewMode).selectedLlm, stage.prompt)

theorem handed_eq_map (env : ChatEnv) (db : Database) (call : ChatCall) :
    handed repr env db call = ((promptStage repr env db call).map PromptStage.prompt).map
      (Prod.mk (chatBot call.bot call.previewMode).selectedLlm) := by
  rw [handed, Option.map_map, Function.comp_def]

theorem handed_putTo (h : SameTables before after) (hid : live.id = draft.id)
    (hsized : (len call.message).isSome = true)
    (hbot : chatBot live false = chatBot draft true) :
    handed repr env after (putTo call live false) =
      handed repr env before (putTo call draft true) := by
  have hllm : (chatBot (putTo call live false).bot (putTo call live false).previewMode) =
      chatBot (putTo call draft true).bot (putTo call draft true).previewMode := hbot
  rw [handed_eq_map, handed_eq_map, promptStage_putTo repr h hid hsized hbot, hllm]

end Calls

section Fidelity

variable (repr : Json → String)

/-- A chatbot is saved. -/
def store (db : Database) (bot : Chatbot) : Database :=
  { db with chatbots := db.chatbots.save bot }

/-- The preview of `draft` shows what `live` does with live traffic: the language
model, every prompt, and what each call on a text hands to the model. -/
structure Previews (draft live : Chatbot) : Prop where
  llm : (chatBot live false).selectedLlm = (chatBot draft true).selectedLlm
  prompt : ∀ context history question,
    buildRagPrompt repr (chatBot live false) context history question =
      buildRagPrompt repr (chatBot draft true) context history question
  handed : ∀ env db call, draft ∈ db.chatbots.rows → (len call.message).isSome = true →
    handed repr env (store db live) (putTo call live false) =
      handed repr env db (putTo call draft true)

/-- Inserted with the default snapshot, or unpublished, and only edited since. -/
def NeverPublished (bot : Chatbot) : Prop :=
  ∃ created edits, (created.isPublished = false ∨ created.publishedConfig = []) ∧
    bot = applyEdits repr created edits

theorem sameTables_store {db : Database} {draft live : Chatbot}
    (hdraft : draft ∈ db.chatbots.rows) (hid : live.id = draft.id)
    (howner : live.owner = draft.owner) : SameTables db (store db live) :=
  ⟨rfl, rfl, rfl, db.chatbots.map_get?_save Chatbot.owner hdraft hid.symm howner.symm⟩

theorem previews_of_chatBot {draft live : Chatbot} (hid : live.id = draft.id)
    (howner : live.owner = draft.owner) (hbot : chatBot live false = chatBot draft true) :
    Previews repr draft live where
  llm := by rw [hbot]
  prompt := by
    intro context history question
    rw [hbot]
  handed := by
    intro env db call hdraft hsized
    exact handed_putTo repr (sameTables_store hdraft hid howner) hid hsized hbot

theorem chatBot_publish (bot : Chatbot) (publishedAt : String) :
    chatBot (publish bot publishedAt) false = chatBot bot true :=
  liveBot_published (SameRelease.refl (publish bot publishedAt))

theorem chatBot_unpublished {bot : Chatbot}
    (h : bot.isPublished = false ∨ bot.publishedConfig = []) :
    chatBot bot false = chatBot bot true := by
  have hruntime : ¬ (bot.isPublished = true ∧ bot.publishedConfig ≠ []) := by
    rintro ⟨hpublished, hconfig⟩
    rcases h with h | h
    · rw [h] at hpublished
      cases hpublished
    · exact hconfig h
  simp [chatBot, liveBot, getRuntimeConfig, hruntime, draftBot, getD, List.lookup_cons]

theorem NeverPublished.unpublished {bot : Chatbot} (h : NeverPublished repr bot) :
    bot.isPublished = false ∨ bot.publishedConfig = [] := by
  obtain ⟨created, edits, hcreated, rfl⟩ := h
  have hsame := sameRelease_applyEdits repr created edits
  rw [hsame.isPublished, hsame.publishedConfig]
  exact hcreated

/-- A preview is faithful: live traffic right after a publish, and live traffic of
a chatbot that was never published, get the model and the prompts that the
preview of the draft gets. -/
theorem preview_faithful (bot : Chatbot) :
    (∀ publishedAt, Previews repr bot (publish bot publishedAt)) ∧
      (NeverPublished repr bot → Previews repr bot bot) := by
  constructor
  · intro publishedAt
    exact previews_of_chatBot repr rfl rfl (chatBot_publish bot publishedAt)
  · intro hnever
    exact previews_of_chatBot repr rfl rfl (chatBot_unpublished hnever.unpublished)

theorem handed_supportBot :
    (handed noRepr plainEnv supportDb (plainCall "v" true)).isSome = true := by
  have hprepare : prepare plainEnv (plainCall "v" true) = .ok ("English", .str "Hi") := rfl
  have hnone : ∀ c, c ∉ supportDb.conversations.rows := by
    intro c hc
    cases hc
  obtain ⟨stage, hstage, -⟩ := exists_promptStage_of_shown noRepr hprepare showsBot_supportDb
    (fun c hc => absurd hc (hnone c)) rfl rfl ⟨rfl, rfl⟩
  rw [handed, hstage]
  rfl

theorem supportBot_previewed :
    (∀ publishedAt, Previews noRepr supportBot (publish supportBot publishedAt)) ∧
      Previews noRepr supportBot supportBot ∧
      (handed noRepr plainEnv supportDb (plainCall "v" true)).isSome = true := by
  obtain ⟨hpublished, hnever⟩ := preview_faithful noRepr supportBot
  exact ⟨hpublished, hnever ⟨supportBot, [], Or.inr rfl, rfl⟩, handed_supportBot⟩

end Fidelity

end Botman.PreviewFidelity
