import Mathlib.Data.Prod.Basic
import Botman.ChatService

/-!
What `process_chat_message` does to the database: which conversation it opens,
and where the messages it stores go.
-/

namespace Botman.ChatEffects

open Botman.Library.KeyedTable
open Botman.Library.PythonValue
open Botman.DataModel
open Botman.TenantContext
open Botman.Prompts
open Botman.ChatbotSettings
open Botman.ChatService

theorem processChatMessage_of_ok (repr : Json → String) {env : ChatEnv} {db : Database}
    {call : ChatCall} {language : String} {processing : Json} {c : Conversation}
    (hprepare : prepare env call = .ok (language, processing))
    (hopen : (openConversation env db call).2 = .ok c) :
    processChatMessage repr env db call =
      converse repr env (openConversation env db call).1 call language processing c := by
  simp only [processChatMessage, hprepare]
  rw [← Prod.mk.eta (p := openConversation env db call), hopen]

theorem processChatMessage_cases (repr : Json → String) (env : ChatEnv) (db : Database)
    (call : ChatCall) :
    (∃ e, processChatMessage repr env db call = (db, .raised e)) ∨
      (∃ e, processChatMessage repr env db call =
        ((openConversation env db call).1, .raised e)) ∨
      ∃ language processing c, (openConversation env db call).2 = .ok c ∧
        processChatMessage repr env db call =
          converse repr env (openConversation env db call).1 call language processing c := by
  cases hprepare : prepare env call with
  | error e => exact Or.inl ⟨e, by simp only [processChatMessage, hprepare]⟩
  | ok text =>
      cases hopen : (openConversation env db call).2 with
      | error e =>
          refine Or.inr (Or.inl ⟨e, ?_⟩)
          simp only [processChatMessage, hprepare]
          rw [← Prod.mk.eta (p := openConversation env db call), hopen]
      | ok c =>
          exact Or.inr (Or.inr ⟨text.1, text.2, c, rfl,
            processChatMessage_of_ok repr hprepare hopen⟩)

section Opening

variable {db : Database} {call : ChatCall}

theorem conversationsOf_shown (hshown : ShowsBot db call.tenant call.bot.id) :
    conversationsOf db call = some (db.conversations.rows.filter call.isFor) := by
  obtain ⟨keep, hrows, hkeep⟩ :=
    getQueryset_conversation_of_showsBot hshown db.conversations.rows
  rw [conversationsOf, hrows, Option.map_some, List.filter_filter]
  congr 1
  apply List.filter_congr
  intro c _
  cases hfor : call.isFor c with
  | false => rfl
  | true => simp [hkeep c (ChatCall.isFor_iff.mp hfor).1]

theorem conversationsOf_cases (hshown : ShowsBot db call.tenant call.bot.id)
    (hone : ∀ r ∈ db.conversations.rows, ∀ s ∈ db.conversations.rows,
      call.isFor r = true → call.isFor s = true → r.id = s.id) :
    (conversationsOf db call = some [] ∧
      ∀ r ∈ db.conversations.rows, call.isFor r = false) ∨
    ∃ c ∈ db.conversations.rows, call.isFor c = true ∧
      conversationsOf db call = some [c] := by
  rw [conversationsOf_shown hshown]
  have hmem : ∀ r, r ∈ db.conversations.rows.filter call.isFor →
      r ∈ db.conversations.rows ∧ call.isFor r = true := fun r => List.mem_filter.mp
  have hnodup : ((db.conversations.rows.filter call.isFor).map HasKey.key).Nodup :=
    List.Nodup.sublist (List.filter_sublist.map _) db.conversations.nodup
  cases hfound : db.conversations.rows.filter call.isFor with
  | nil =>
      refine Or.inl ⟨rfl, ?_⟩
      intro r hr
      simpa using List.filter_eq_nil_iff.mp hfound r hr
  | cons c rest =>
      rw [hfound] at hmem hnodup
      cases rest with
      | nil =>
          obtain ⟨hc, hfor⟩ := hmem c (by simp)
          exact Or.inr ⟨c, hc, hfor, rfl⟩
      | cons d rest =>
          exfalso
          obtain ⟨hc, hcfor⟩ := hmem c (by simp)
          obtain ⟨hd, hdfor⟩ := hmem d (by simp)
          simp only [List.map_cons, List.nodup_cons, List.mem_cons] at hnodup
          exact hnodup.1 (Or.inl (hone c hc d hd hcfor hdfor))

theorem mem_conversationsOf {found : List Conversation}
    (h : conversationsOf db call = some found) :
    ∀ c ∈ found, c ∈ db.conversations.rows ∧ call.isFor c = true := by
  intro c hc
  obtain ⟨rows, hrows, rfl⟩ := Option.map_eq_some_iff.mp h
  obtain ⟨hmem, hfor⟩ := List.mem_filter.mp hc
  exact ⟨mem_of_mem_getQueryset hrows c hmem, hfor⟩

theorem mem_updatePreview (call : ChatCall) {c : Conversation}
    (hc : c ∈ db.conversations.rows) (r : Conversation) :
    r ∈ (updatePreview db call c).1.conversations.rows ↔
      r = (updatePreview db call c).2 ∨ (r ∈ db.conversations.rows ∧ r.id ≠ c.id) := by
  unfold updatePreview
  split
  · exact db.conversations.mem_save { c with isPreview := call.previewMode } r
  · exact db.conversations.mem_iff_eq_or hc r

theorem mem_linkVisitor (visitor : Visitor) {c : Conversation}
    (hc : c ∈ db.conversations.rows) (r : Conversation) :
    r ∈ (linkVisitor db visitor c).1.conversations.rows ↔
      r = (linkVisitor db visitor c).2 ∨ (r ∈ db.conversations.rows ∧ r.id ≠ c.id) := by
  unfold linkVisitor
  split
  · exact db.conversations.mem_save { c with visitor := some visitor.id } r
  · exact db.conversations.mem_iff_eq_or hc r

theorem updatePreview_frame (db : Database) (call : ChatCall) (c : Conversation) :
    (updatePreview db call c).1.chatbots = db.chatbots ∧
      (updatePreview db call c).1.messages = db.messages := by
  unfold updatePreview
  split <;> exact ⟨rfl, rfl⟩

theorem linkVisitor_frame (db : Database) (visitor : Visitor) (c : Conversation) :
    (linkVisitor db visitor c).1.chatbots = db.chatbots ∧
      (linkVisitor db visitor c).1.messages = db.messages := by
  unfold linkVisitor
  split <;> exact ⟨rfl, rfl⟩

theorem updatePreview_same (db : Database) (call : ChatCall) (c : Conversation) :
    (updatePreview db call c).2.id = c.id ∧
      call.isFor (updatePreview db call c).2 = call.isFor c ∧
      (updatePreview db call c).2.isPreview = call.previewMode := by
  unfold updatePreview
  split
  · exact ⟨rfl, rfl, rfl⟩
  · rename_i hsame
    exact ⟨rfl, rfl, not_not.mp hsame⟩

theorem linkVisitor_same (db : Database) (call : ChatCall) (visitor : Visitor)
    (c : Conversation) :
    (linkVisitor db visitor c).2.id = c.id ∧
      call.isFor (linkVisitor db visitor c).2 = call.isFor c ∧
      (linkVisitor db visitor c).2.isPreview = c.isPreview := by
  unfold linkVisitor
  split <;> exact ⟨rfl, rfl, rfl⟩

/-- The conversation of a call is open: it carries the mode of the call, and
takes the place of the one the visitor had. -/
structure Opened (db db' : Database) (call : ChatCall) (c : Conversation) : Prop where
  chatbots : db'.chatbots = db.chatbots
  messages : db'.messages = db.messages
  isFor : call.isFor c = true
  mode : c.isPreview = call.previewMode
  mem : ∀ r, r ∈ db'.conversations.rows ↔
    r = c ∨ (r ∈ db.conversations.rows ∧ call.isFor r = false)
  id : ∀ r ∈ db.conversations.rows, call.isFor r = true → r.id = c.id

theorem Opened.exists_kept {db' : Database} {c r : Conversation} (h : Opened db db' call c)
    (hr : r ∈ db.conversations.rows) :
    ∃ s ∈ db'.conversations.rows, s.id = r.id ∧ s.chatbot = r.chatbot ∧
      s.visitorIdentifier = r.visitorIdentifier := by
  cases hfor : call.isFor r with
  | false => exact ⟨r, (h.mem r).mpr (Or.inr ⟨hr, hfor⟩), rfl, rfl, rfl⟩
  | true =>
      obtain ⟨hbot, hvisitor⟩ := ChatCall.isFor_iff.mp h.isFor
      obtain ⟨hrbot, hrvisitor⟩ := ChatCall.isFor_iff.mp hfor
      exact ⟨c, (h.mem c).mpr (Or.inl rfl), (h.id r hr hfor).symm, hbot.trans hrbot.symm,
        hvisitor.trans hrvisitor.symm⟩

theorem visitor_ne_of_not_isFor {r : Conversation} (hbot : r.chatbot = call.bot.id)
    (hfor : call.isFor r = false) : r.visitorIdentifier ≠ call.visitorId := by
  intro hvisitor
  rw [ChatCall.isFor_iff.mpr ⟨hbot, hvisitor⟩] at hfor
  cases hfor

theorem Opened.eq_of_visitor {db' : Database} {c : Conversation} (h : Opened db db' call c)
    (hone : ∀ r ∈ db.conversations.rows, ∀ s ∈ db.conversations.rows,
      r.chatbot = call.bot.id → s.chatbot = call.bot.id →
        r.visitorIdentifier = s.visitorIdentifier → r = s) :
    ∀ r ∈ db'.conversations.rows, ∀ s ∈ db'.conversations.rows,
      r.chatbot = call.bot.id → s.chatbot = call.bot.id →
        r.visitorIdentifier = s.visitorIdentifier → r = s := by
  have hvisitor := (ChatCall.isFor_iff.mp h.isFor).2
  intro r hr s hs hrbot hsbot hsame
  rcases (h.mem r).mp hr with rfl | ⟨hr, hrfor⟩ <;>
    rcases (h.mem s).mp hs with rfl | ⟨hs, hsfor⟩
  · rfl
  · exact absurd (hsame.symm.trans hvisitor) (visitor_ne_of_not_isFor hsbot hsfor)
  · exact absurd (hsame.trans hvisitor) (visitor_ne_of_not_isFor hrbot hrfor)
  · exact hone r hr s hs hrbot hsbot hsame

theorem opened_found {c : Conversation} (hc : c ∈ db.conversations.rows)
    (hfor : call.isFor c = true)
    (hone : ∀ r ∈ db.conversations.rows, ∀ s ∈ db.conversations.rows,
      call.isFor r = true → call.isFor s = true → r.id = s.id) (visitor : Visitor) :
    let marked := updatePreview db call c
    let linked := linkVisitor marked.1 visitor marked.2
    Opened db linked.1 call linked.2 := by
  intro marked linked
  obtain ⟨hbots, hmessages⟩ := updatePreview_frame db call c
  obtain ⟨hbots', hmessages'⟩ := linkVisitor_frame marked.1 visitor marked.2
  obtain ⟨hid, hmarkedFor, hmode⟩ := updatePreview_same db call c
  obtain ⟨hid', hlinkedFor, hmode'⟩ := linkVisitor_same marked.1 call visitor marked.2
  have hmarked : marked.2 ∈ marked.1.conversations.rows :=
    (mem_updatePreview call hc marked.2).mpr (Or.inl rfl)
  refine ⟨hbots'.trans hbots, hmessages'.trans hmessages,
    hlinkedFor.trans (hmarkedFor.trans hfor), hmode'.trans hmode, ?_, ?_⟩
  · intro r
    have hother : r ∈ db.conversations.rows → (r.id ≠ c.id ↔ call.isFor r = false) := by
      intro hr
      constructor
      · intro hne
        by_contra hrfor
        exact hne (hone r hr c hc (by simpa using hrfor) hfor)
      · intro hrfor hkey
        rw [db.conversations.eq_of_key_eq hr hc hkey, hfor] at hrfor
        cases hrfor
    rw [mem_linkVisitor visitor hmarked r, mem_updatePreview call hc r]
    constructor
    · rintro (rfl | ⟨rfl | ⟨hr, hne⟩, hne'⟩)
      · exact Or.inl rfl
      · exact absurd rfl hne'
      · exact Or.inr ⟨hr, (hother hr).mp hne⟩
    · rintro (rfl | ⟨hr, hrfor⟩)
      · exact Or.inl rfl
      · have hne := (hother hr).mpr hrfor
        exact Or.inr ⟨Or.inr ⟨hr, hne⟩, hid.symm ▸ hne⟩
  · intro r hr hrfor
    rw [hone r hr c hc hrfor hfor]
    exact (hid'.trans hid).symm

theorem openFor_spec (env : ChatEnv) (visitor : Visitor)
    (hshown : ShowsBot db call.tenant call.bot.id)
    (hone : ∀ r ∈ db.conversations.rows, ∀ s ∈ db.conversations.rows,
      call.isFor r = true → call.isFor s = true → r.id = s.id) :
    ∃ c, (openFor env db call visitor).2 = .ok c ∧
      Opened db (openFor env db call visitor).1 call c := by
  unfold openFor
  rcases conversationsOf_cases hshown hone with ⟨hquery, hnone⟩ | ⟨c, hc, hfor, hquery⟩
  · rw [hquery]
    refine ⟨_, rfl, rfl, rfl, ?_, rfl, ?_, ?_⟩
    · exact ChatCall.isFor_iff.mpr ⟨rfl, rfl⟩
    · intro r
      rw [Table.mem_create, or_comm]
      refine or_congr_right ⟨fun hr => ⟨hr, hnone r hr⟩, And.left⟩
    · intro r hr hrfor
      rw [hnone r hr] at hrfor
      cases hrfor
  · rw [hquery]
    exact ⟨_, rfl, opened_found hc hfor hone visitor⟩

theorem getOrCreateVisitor_frame (db : Database) (externalId : String) :
    (getOrCreateVisitor db externalId).1.chatbots = db.chatbots ∧
      (getOrCreateVisitor db externalId).1.messages = db.messages ∧
      (getOrCreateVisitor db externalId).1.conversations = db.conversations := by
  unfold getOrCreateVisitor
  split <;> exact ⟨rfl, rfl, rfl⟩

theorem openConversation_spec (env : ChatEnv)
    (hshown : ShowsBot db call.tenant call.bot.id)
    (hone : ∀ r ∈ db.conversations.rows, ∀ s ∈ db.conversations.rows,
      call.isFor r = true → call.isFor s = true → r.id = s.id) :
    ∃ c, (openConversation env db call).2 = .ok c ∧
      Opened db (openConversation env db call).1 call c := by
  obtain ⟨hbots, hmessages, hrows⟩ := getOrCreateVisitor_frame db call.visitorId
  obtain ⟨c, hc, hopened⟩ := openFor_spec env (getOrCreateVisitor db call.visitorId).2
    (hshown.of_chatbots hbots) (by rw [hrows]; exact hone)
  refine ⟨c, hc, hopened.chatbots.trans hbots, hopened.messages.trans hmessages,
    hopened.isFor, hopened.mode, ?_, ?_⟩
  · intro r
    rw [← hrows]
    exact hopened.mem r
  · rw [← hrows]
    exact hopened.id

theorem openConversation_ok {env : ChatEnv} {c : Conversation}
    (h : (openConversation env db call).2 = .ok c) :
    c ∈ (openConversation env db call).1.conversations.rows ∧ call.isFor c = true := by
  unfold openConversation openFor at h ⊢
  simp only at h ⊢
  split at h
  · cases h
  · cases h
    exact ⟨by simp, ChatCall.isFor_iff.mpr ⟨rfl, rfl⟩⟩
  · rename_i found hquery
    cases h
    obtain ⟨hmem, hfor⟩ := mem_conversationsOf hquery found (by simp)
    obtain ⟨-, hmarkedFor, -⟩ :=
      updatePreview_same (getOrCreateVisitor db call.visitorId).1 call found
    refine ⟨(mem_linkVisitor _ ?_ _).mpr (Or.inl rfl), ?_⟩
    · exact (mem_updatePreview call hmem _).mpr (Or.inl rfl)
    · rw [(linkVisitor_same _ call _ _).2.1, hmarkedFor, hfor]
  · cases h

theorem id_eq_of_openConversation {env : ChatEnv} {c : Conversation}
    (hshown : ShowsBot db call.tenant call.bot.id)
    (h : (openConversation env db call).2 = .ok c) :
    ∀ r ∈ db.conversations.rows, ∀ s ∈ db.conversations.rows,
      call.isFor r = true → call.isFor s = true → r.id = s.id := by
  obtain ⟨hbots, -, hrows⟩ := getOrCreateVisitor_frame db call.visitorId
  have hquery := conversationsOf_shown (hshown.of_chatbots hbots)
  rw [hrows] at hquery
  intro r hr s hs hrfor hsfor
  have hr' : r ∈ db.conversations.rows.filter call.isFor := List.mem_filter.mpr ⟨hr, hrfor⟩
  have hs' : s ∈ db.conversations.rows.filter call.isFor := List.mem_filter.mpr ⟨hs, hsfor⟩
  unfold openConversation openFor at h
  simp only [hquery] at h
  rcases hfound : db.conversations.rows.filter call.isFor with _ | ⟨found, _ | ⟨second, rest⟩⟩
  · rw [hfound] at hr'
    cases hr'
  · rw [hfound] at hr' hs'
    rw [List.mem_singleton.mp hr', List.mem_singleton.mp hs']
  · rw [hfound] at h
    cases h

theorem openConversation_messages (env : ChatEnv) (db : Database) (call : ChatCall) :
    (openConversation env db call).1.messages = db.messages := by
  obtain ⟨-, hmessages, -⟩ := getOrCreateVisitor_frame db call.visitorId
  unfold openConversation openFor
  simp only
  split
  · exact hmessages
  · exact hmessages
  · rw [(linkVisitor_frame _ _ _).2, (updatePreview_frame _ _ _).2]
    exact hmessages
  · exact hmessages

theorem openConversation_tokenUsages (env : ChatEnv) (db : Database) (call : ChatCall) :
    (openConversation env db call).1.tokenUsages = db.tokenUsages := by
  have hvisitor : (getOrCreateVisitor db call.visitorId).1.tokenUsages = db.tokenUsages := by
    unfold getOrCreateVisitor
    split <;> rfl
  unfold openConversation openFor
  simp only
  split
  · exact hvisitor
  · exact hvisitor
  · unfold linkVisitor updatePreview
    split <;> split <;> exact hvisitor
  · exact hvisitor

end Opening

section Replying

variable (repr : Json → String) (env : ChatEnv) (call : ChatCall)

/-- A message that is written belongs to the conversation. -/
def IsIn (conversation : Nat) : ReplyWrite → Prop
  | .message row => row.conversation = conversation
  | .usage _ => True

theorem isIn_of_mem_replyWrites {conversation : Nat} {ground : Grounding}
    {content : Option String} {usage : Option Usage} {writes : List ReplyWrite}
    (h : replyWrites repr env call conversation ground content usage = some writes) :
    ∀ w ∈ writes, IsIn conversation w := by
  intro w hw
  unfold replyWrites at h
  split at h
  · cases h
    rcases List.mem_cons.mp hw with rfl | hw
    · rfl
    · obtain ⟨row, -, rfl⟩ : ∃ row, usageRow repr call usage = some row ∧
          ReplyWrite.usage row = w := by simpa using hw
      trivial
  · cases h

theorem isIn_of_mem_respond {db : Database} {language : String} {processing : Json}
    {c : Conversation} {messageId : Nat} :
    ∀ w ∈ (respond repr env db call language processing c messageId).writes,
      IsIn c.id w := by
  intro w hw
  unfold respond at hw
  split at hw
  · simp [failWith] at hw
  · simp [failWith] at hw
  · split at hw
    · simp [failWith] at hw
    · split at hw
      · simp only [streamedReply] at hw
        split at hw
        · simp [failWith] at hw
        · split at hw
          · simp at hw
          · split at hw
            · simp [failWith] at hw
            · rename_i hwrites
              exact isIn_of_mem_replyWrites repr env call hwrites w hw
      · simp only [blockingReply] at hw
        split at hw
        · simp [failWith] at hw
        · split at hw
          · rename_i hwrites
            exact isIn_of_mem_replyWrites repr env call hwrites w hw
          · simp [failWith] at hw

theorem foldl_applyWrite_spec (writes : List ReplyWrite) {conversation : Nat}
    (h : ∀ w ∈ writes, IsIn conversation w) (db : Database) :
    (writes.foldl applyWrite db).chatbots = db.chatbots ∧
      (writes.foldl applyWrite db).conversations = db.conversations ∧
      ∃ new, (writes.foldl applyWrite db).messages.rows = db.messages.rows ++ new ∧
        ∀ m ∈ new, m.conversation = conversation := by
  induction writes generalizing db with
  | nil => exact ⟨rfl, rfl, [], by simp, by simp⟩
  | cons w rest ih =>
      obtain ⟨hbots, hrows, new, hnew, hin⟩ :=
        ih (fun v hv => h v (List.mem_cons_of_mem _ hv)) (applyWrite db w)
      have hw := h w (List.mem_cons_self ..)
      cases w with
      | message row =>
          refine ⟨hbots, hrows, db.messages.created row :: new, ?_, ?_⟩
          · rw [List.foldl_cons, hnew]
            simp [applyWrite]
          · rintro m (_ | ⟨_, hm⟩)
            · exact hw
            · exact hin m hm
      | usage row => exact ⟨hbots, hrows, new, hnew, hin⟩

theorem converse_spec (db : Database) (language : String) (processing : Json)
    (c : Conversation) :
    let out := (converse repr env db call language processing c).1
    out.chatbots = db.chatbots ∧ out.conversations = db.conversations ∧
      ∃ new, out.messages.rows = db.messages.rows ++ new ∧
        (∀ m ∈ new, m.conversation = c.id) ∧
        (new = [] ↔ (textColumn repr call.message).isNone = true) := by
  intro out
  simp only [out, converse]
  cases hcontent : textColumn repr call.message with
  | none => exact ⟨rfl, rfl, [], by simp, by simp, by simp⟩
  | some content =>
      let row := userMessage env c.id content
      obtain ⟨hbots, hrows, new, hnew, hin⟩ := foldl_applyWrite_spec
        (respond repr env { db with messages := db.messages.create row } call language
          processing c (db.messages.created row).id).writes
        (isIn_of_mem_respond repr env call)
        { db with messages := db.messages.create row }
      refine ⟨hbots, hrows, db.messages.created row :: new, ?_, ?_, by simp⟩
      · rw [hnew]
        simp
      · rintro m (_ | ⟨_, hm⟩)
        · rfl
        · exact hin m hm

theorem conversation_of_new {db : Database} {m : Message}
    (hm : m ∈ (processChatMessage repr env db call).1.messages.rows)
    (hnew : m ∉ db.messages.rows) :
    ∃ c ∈ (processChatMessage repr env db call).1.conversations.rows,
      c.id = m.conversation ∧ c.chatbot = call.bot.id := by
  have hmessages := openConversation_messages env db call
  rcases processChatMessage_cases repr env db call with
    ⟨e, hout⟩ | ⟨e, hout⟩ | ⟨language, processing, c, hopen, hout⟩
  · rw [hout] at hm
    exact absurd hm hnew
  · rw [hout] at hm
    exact absurd (hmessages ▸ hm) hnew
  · obtain ⟨hc, hfor⟩ := openConversation_ok hopen
    obtain ⟨-, hrows, new, hadded, hin, -⟩ := converse_spec repr env call
      (openConversation env db call).1 language processing c
    rw [hout] at hm ⊢
    rw [hadded, hmessages] at hm
    refine ⟨c, hrows ▸ hc, ?_, (ChatCall.isFor_iff.mp hfor).1⟩
    rcases List.mem_append.mp hm with hold | hm
    · exact absurd hold hnew
    · exact (hin m hm).symm

/-- A prompt can be built: neither configuration is a value without the method
`get`. -/
def UsableConfigs (bot : PromptBot) : Prop :=
  (configDict bot.botPromptConfig).isSome = true ∧
    (configDict bot.formattingConfig).isSome = true

theorem buildRagPrompt_isSome_iff (bot : PromptBot) (context history : String)
    (question : Json) :
    (buildRagPrompt repr bot context history question).isSome = true ↔
      UsableConfigs bot := by
  unfold buildRagPrompt UsableConfigs
  cases configDict bot.botPromptConfig <;> cases configDict bot.formattingConfig <;> simp

theorem usableConfigs_of_respond {db : Database} {language : String} {processing : Json}
    {c : Conversation} {messageId : Nat}
    (h : ∀ e, (respond repr env db call language processing c messageId).result ≠
      .raised e) : UsableConfigs (chatBot call.bot call.previewMode) := by
  unfold respond at h
  split at h
  · exact absurd rfl (h _)
  · exact absurd rfl (h _)
  · rename_i history ground _ _
    split at h
    · exact absurd rfl (h _)
    · rename_i prompt hprompt
      rw [← buildRagPrompt_isSome_iff repr _ ground.context history processing, hprompt]
      rfl

theorem opens_of_reply (db : Database)
    (h : ∀ e, (processChatMessage repr env db call).2 ≠ .raised e) :
    ∃ c, (openConversation env db call).2 = .ok c := by
  rcases processChatMessage_cases repr env db call with
    ⟨e, hout⟩ | ⟨e, hout⟩ | ⟨-, -, c, hopen, -⟩
  · rw [hout] at h
    exact absurd rfl (h e)
  · rw [hout] at h
    exact absurd rfl (h e)
  · exact ⟨c, hopen⟩

theorem usableConfigs_of_reply (db : Database)
    (h : ∀ e, (processChatMessage repr env db call).2 ≠ .raised e) :
    UsableConfigs (chatBot call.bot call.previewMode) := by
  rcases processChatMessage_cases repr env db call with
    ⟨e, hout⟩ | ⟨e, hout⟩ | ⟨language, processing, c, -, hout⟩
  · rw [hout] at h
    exact absurd rfl (h e)
  · rw [hout] at h
    exact absurd rfl (h e)
  · rw [hout] at h
    unfold converse at h
    split at h
    · exact absurd rfl (h _)
    · exact usableConfigs_of_respond repr env call h

end Replying

section PlainExchange

/-- A chatbot as the dashboard creates it, published with an empty
snapshot. -/
def supportBot : Chatbot where
  id := 1
  name := "Support"
  description := ""
  systemPrompt := ""
  selectedLlm := "openai"
  providerConfig := none
  botType := "support"
  personality := ""
  tone := ""
  fallbackBehavior := ""
  widgetToken := 1
  allowedDomains := "*"
  isActive := true
  isPublished := true
  publishedConfig := []
  botPromptConfig := .obj []
  formattingConfig := .obj []
  owner := 1

def supportDb : Database :=
  { Database.empty with chatbots := Table.empty.create supportBot }

/-- English is spoken, nothing is found, and the answer is `Hello.`. -/
def plainEnv : ChatEnv where
  detect := fun _ message => (.str "English", message)
  search := fun _ => .noEmbedding
  answer := fun _ _ => .returned (some "Hello.") none
  stream := fun _ _ => .chunks [⟨some "Hello.", none⟩] none none
  translate := fun _ text _ => text
  delivered := none
  startedAt := 0
  answeredAt := 0
  latency := 0

def plainCall (visitorId : String) (previewMode : Bool) : ChatCall where
  tenant := clearTenantContext
  bot := supportBot
  visitorId := visitorId
  message := .str "Hi"
  stream := true
  previewMode := previewMode

/-- The text of values that are not strings, which a plain exchange does not
use. -/
def noRepr : Json → String := fun _ => ""

theorem showsBot_supportDb : ShowsBot supportDb clearTenantContext supportBot.id :=
  ⟨[supportBot], getQueryset_anonymous _ _ _ _ rfl rfl, supportBot, by simp, rfl⟩

theorem respond_plain (repr : Json → String) {db : Database} {call : ChatCall}
    {c : Conversation} {messageId : Nat} {history : String}
    (hhistory : getConversationHistory db call.tenant c.id 10 messageId = some history)
    (husable : UsableConfigs (chatBot call.bot call.previewMode))
    (hstream : call.stream = true) (question : Json) :
    respond repr plainEnv db call "English" question c messageId =
      ⟨[.message (botMessage plainEnv c.id ⟨"", "ai_api", 0⟩ "Hello." 0)],
        .streaming [.content "Hello."]⟩ := by
  obtain ⟨prompt, hprompt⟩ := Option.isSome_iff_exists.mp
    ((buildRagPrompt_isSome_iff repr _ "" history question).mpr husable)
  have hground : grounding (plainEnv.search question) = some ⟨"", "ai_api", 0⟩ := rfl
  have henglish : call.stream = true ∧ isEnglish "English" = true :=
    ⟨hstream, by decide⟩
  unfold respond
  rw [hhistory, hground]
  simp only [hprompt]
  rw [if_pos henglish]
  unfold streamedReply
  cases hgemini : isGemini (chatBot call.bot call.previewMode).selectedLlm <;>
    simp [plainEnv, streamResponse, hgemini, streamGemini, streamOpenAi, Streamed.after,
      replyWrites, totalTokens, usageRow]

theorem processChatMessage_plain (repr : Json → String) {db : Database} (call : ChatCall)
    (hshown : ShowsBot db call.tenant call.bot.id)
    (hone : ∀ r ∈ db.conversations.rows, ∀ s ∈ db.conversations.rows,
      call.isFor r = true → call.isFor s = true → r.id = s.id)
    (husable : UsableConfigs (chatBot call.bot call.previewMode))
    (hmessage : call.message = .str "Hi") (hstream : call.stream = true) :
    let out := processChatMessage repr plainEnv db call
    out.2 = .streaming [.content "Hello."] ∧
      ∃ m ∈ out.1.messages.rows, m ∉ db.messages.rows ∧ m.sender = .bot ∧
        ∃ c ∈ out.1.conversations.rows, c.id = m.conversation ∧
          c.chatbot = call.bot.id := by
  intro out
  have hprepare : prepare plainEnv call = .ok ("English", .str "Hi") := by
    simp [prepare, plainEnv, hmessage, len]
  obtain ⟨c, hc, hopened⟩ := openConversation_spec plainEnv hshown hone
  obtain ⟨visible, hvisible, -⟩ := hshown
  let opened := (openConversation plainEnv db call).1
  let row := userMessage plainEnv c.id "Hi"
  let stored : Database := { opened with messages := opened.messages.create row }
  have hhistory : ∃ history, getConversationHistory stored call.tenant c.id 10
      (opened.messages.created row).id = some history := by
    obtain ⟨found, hfound⟩ :=
      getQueryset_isSome hvisible stored messageModel stored.messages.rows
    unfold getConversationHistory
    exact ⟨_, by rw [hfound]; rfl⟩
  obtain ⟨history, hhistory⟩ := hhistory
  have hreply := respond_plain repr hhistory husable hstream (.str "Hi")
  let answer := botMessage plainEnv c.id ⟨"", "ai_api", 0⟩ "Hello." 0
  have hout : out = ({ stored with messages := stored.messages.create answer },
      .streaming [.content "Hello."]) := by
    simp only [out, processChatMessage_of_ok repr hprepare hc, converse, hmessage,
      textColumn, str_str]
    rw [hreply]
    rfl
  rw [hout]
  refine ⟨rfl, stored.messages.created answer, ?_, ?_, rfl, c, ?_, rfl, ?_⟩
  · simp
  · intro hold
    have hlt := db.messages.fresh _ hold
    rw [Table.key_created] at hlt
    have hnext : stored.messages.next = db.messages.next + 1 := by
      simp [stored, opened, hopened.messages]
    omega
  · exact (hopened.mem c).mpr (Or.inl rfl)
  · exact (ChatCall.isFor_iff.mp hopened.isFor).1

end PlainExchange

end Botman.ChatEffects
