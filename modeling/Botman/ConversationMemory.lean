import Botman.AnswerRecords
import Botman.Library.SortedCut
import Botman.TenantPrograms

/-!
What a conversation remembers: the history that `build_rag_prompt` is given in
an exchange, over every run of exchanges.

The history is read after the question was stored, newest message first, in the
tenant context of the call.  The context that opened a conversation shows all of
its messages, so that the history is a matter of the conversation alone.
-/

namespace Botman.ConversationMemory

open Botman.Library.KeyedTable
open Botman.Library.PythonValue
open Botman.Library.SortedCut
open Botman.Library.Transition
open Botman.DataModel
open Botman.TenantContext
open Botman.TenantPrograms
open Botman.Prompts
open Botman.ChatbotSettings
open Botman.ChatService
open Botman.ChatEffects
open Botman.ChatPrompt
open Botman.AnswerRecords

/-- The arguments of the call of `build_rag_prompt`, with the question that the
exchange stored. -/
structure PromptArguments where
  stored : Question
  context : String
  history : String

/-- What an exchange calls `build_rag_prompt` with, absent where it ends before. -/
def promptArguments? (repr : Json → String) (env : ChatEnv) (db : Database) (call : ChatCall) :
    Option PromptArguments :=
  (question? repr env db call).bind fun q =>
    (getConversationHistory (q.stored env) call.tenant q.conversation.id 10
        (q.opened.messages.created (q.row env)).id).bind fun history =>
      (grounding (env.search q.processing)).map fun ground => ⟨q, ground.context, history⟩

/-- The last messages of a conversation, at most ten, oldest first. -/
def remembered (db : Database) (conversation : Nat) : List Message :=
  let messages := messagesOf db conversation
  messages.drop (messages.length - min 10 messages.length)

/-- The keys and references that the database itself guarantees: keys start at
one, and a message belongs to a stored conversation. -/
structure Sound (db : Database) : Prop where
  numbered : 0 < db.messages.next
  referenced : ∀ m ∈ db.messages.rows, ∃ c ∈ db.conversations.rows, c.id = m.conversation

variable (repr : Json → String) {env : ChatEnv} {db : Database} {call : ChatCall}

theorem promptStage_eq (env : ChatEnv) (db : Database) (call : ChatCall) :
    (promptStage repr env db call).map PromptStage.prompt =
      (promptArguments? repr env db call).bind fun arguments =>
        buildRagPrompt repr (chatBot call.bot call.previewMode) arguments.context
          arguments.history arguments.stored.processing := by
  unfold promptStage promptArguments? promptFor
  cases question? repr env db call with
  | none => rfl
  | some q =>
      simp only [Option.bind_some]
      cases getConversationHistory (q.stored env) call.tenant q.conversation.id 10
          (q.opened.messages.created (q.row env)).id with
      | none => rfl
      | some history =>
          cases grounding (env.search q.processing) with
          | none => rfl
          | some ground => simp [Function.comp_def]

section Opening

/-- What `get_or_create` did to open the conversation of a call: it is new, or
the context shows the chatbot. -/
structure OpenedIn (db opened : Database) (call : ChatCall) (c : Conversation) : Prop where
  wellFormed : isMalformed call.tenant = false
  chatbots : opened.chatbots = db.chatbots
  origin : c.id = db.conversations.next ∨ Shows db call.tenant (some call.bot.id)

theorem conversationsOf_eq (db : Database) (call : ChatCall) :
    conversationsOf db call =
      if isMalformed call.tenant then none
      else some ((db.conversations.rows.filter fun c =>
        decide (Shows db call.tenant (some c.chatbot))).filter call.isFor) := by
  have hfollows : FollowsChatbot db conversationModel db.conversations.rows
      fun c => some c.chatbot :=
    followsChatbot_of_chatbot db conversationModel _ (by decide) rfl rfl rfl
  rw [conversationsOf, getQueryset_eq hfollows]
  split <;> rfl

theorem shows_of_conversationsOf {found : List Conversation}
    (h : conversationsOf db call = some found) :
    isMalformed call.tenant = false ∧
      ∀ c ∈ found, Shows db call.tenant (some call.bot.id) := by
  have hfor := mem_conversationsOf h
  rw [conversationsOf_eq] at h
  split at h
  · cases h
  · rename_i hformed
    cases h
    refine ⟨Bool.eq_false_of_not_eq_true hformed, fun c hc => ?_⟩
    rw [← (ChatCall.isFor_iff.mp (hfor c hc).2).1]
    exact of_decide_eq_true (List.mem_filter.mp (List.mem_of_mem_filter hc)).2

theorem shows_of_chatbots {other : Database} {tenant : Tenant} {chatbot : Option Nat}
    (h : other.chatbots = db.chatbots) :
    Shows other tenant chatbot ↔ Shows db tenant chatbot := by
  have howner : ownerOfChatbot other = ownerOfChatbot db := by
    funext id
    rw [ownerOfChatbot, h, ownerOfChatbot]
  rw [Shows, howner, Shows]

theorem openedIn_openFor {visitor : Visitor} {c : Conversation}
    (h : (openFor env db call visitor).2 = .ok c) :
    OpenedIn db (openFor env db call visitor).1 call c := by
  unfold openFor at h ⊢
  cases hquery : conversationsOf db call with
  | none =>
      rw [hquery] at h
      cases h
  | some found =>
      obtain ⟨hformed, hshows⟩ := shows_of_conversationsOf hquery
      rw [hquery] at h
      rcases found with _ | ⟨found, _ | ⟨second, rest⟩⟩
      · cases h
        exact ⟨hformed, rfl, Or.inl rfl⟩
      · cases h
        refine ⟨hformed, ?_, Or.inr (hshows found List.mem_cons_self)⟩
        exact (linkVisitor_frame _ _ _).1.trans (updatePreview_frame _ _ _).1
      · cases h

theorem openedIn_openConversation {c : Conversation}
    (h : (openConversation env db call).2 = .ok c) :
    OpenedIn db (openConversation env db call).1 call c := by
  obtain ⟨hbots, -, hrows⟩ := getOrCreateVisitor_frame db call.visitorId
  obtain ⟨hformed, hsame, horigin⟩ := openedIn_openFor h
  refine ⟨hformed, hsame.trans hbots, ?_⟩
  rw [← hrows, ← shows_of_chatbots hbots]
  exact horigin

theorem openedIn_of_question {q : Question} (h : question? repr env db call = some q) :
    OpenedIn db q.opened call q.conversation ∧ q.opened.messages = db.messages ∧
      q.conversation ∈ q.opened.conversations.rows ∧ call.isFor q.conversation = true := by
  have hmessages := openConversation_messages env db call
  have hopen := (stages_of_question repr h).2.1
  have hok : (openConversation env db call).2 = .ok q.conversation := by rw [hopen]
  have hopened := openedIn_openConversation hok
  obtain ⟨hmem, hfor⟩ := openConversation_ok hok
  rw [hopen] at hopened hmessages hmem
  exact ⟨hopened, hmessages, hmem, hfor⟩

end Opening

section History

theorem shows_of_question (hsound : Sound db) {q : Question}
    (h : question? repr env db call = some q) {m : Message} (hm : m ∈ db.messages.rows)
    (hin : m.conversation = q.conversation.id) :
    Shows (q.stored env) call.tenant
      (((q.stored env).conversations.get? m.conversation).map Conversation.chatbot) := by
  obtain ⟨hopened, -, hmem, hfor⟩ := openedIn_of_question repr h
  rcases hopened.origin with hnew | hshows
  · -- a conversation that is new has no messages
    obtain ⟨c, hc, hid⟩ := hsound.referenced m hm
    have hlt : c.id < db.conversations.next := db.conversations.fresh c hc
    omega
  · have hget : (q.stored env).conversations.get? m.conversation = some q.conversation :=
      ((q.stored env).conversations.get?_eq_some_iff).mpr ⟨hmem, hin.symm⟩
    rw [hget, Option.map_some, (ChatCall.isFor_iff.mp hfor).1]
    exact (shows_of_chatbots hopened.chatbots).mpr hshows

theorem messages_read (hsound : Sound db) {q : Question}
    (h : question? repr env db call = some q) :
    (((q.stored env).messages.rows.filter fun m => decide (Shows (q.stored env) call.tenant
        (((q.stored env).conversations.get? m.conversation).map Conversation.chatbot))).filter
      fun m => m.conversation = q.conversation.id).filter
        (fun m => m.id ≠ (q.opened.messages.created (q.row env)).id) =
      messagesOf db q.conversation.id := by
  obtain ⟨-, hmessages, -, -⟩ := openedIn_of_question repr h
  have hkey : (q.opened.messages.created (q.row env)).id = db.messages.next := by
    rw [hmessages]
    exact db.messages.key_created _
  have hquestion : (db.messages.created (q.row env)).id = db.messages.next :=
    db.messages.key_created _
  rw [messages_of_question repr h, hkey, List.filter_filter, List.filter_filter,
    List.filter_append, List.filter_cons_of_neg (by simp [hquestion]), List.filter_nil,
    List.append_nil, messagesOf]
  refine List.filter_congr fun m hm => ?_
  rw [Bool.eq_iff_iff]
  simp only [Bool.and_eq_true, decide_eq_true_eq]
  constructor
  · rintro ⟨⟨-, hin⟩, -⟩
    exact hin
  · intro hin
    have hlt : m.id < db.messages.next := db.messages.fresh m hm
    exact ⟨⟨hlt.ne, hin⟩, shows_of_question repr hsound h hm hin⟩

/-- The messages were stored one after the other in time. -/
def Timed (messages : List Message) : Prop :=
  messages.Pairwise fun earlier later => earlier.createdAt < later.createdAt

theorem newestFirst_eq_reverse {messages : List Message} (h : Timed messages) :
    newestFirst messages = messages.reverse := by
  refine mergeSort_eq_reverse ?_ ?_ ?_
  · intro a b c hab hbc
    simp only [decide_eq_true_eq] at hab hbc ⊢
    omega
  · intro a b
    simp only [Bool.or_eq_true, decide_eq_true_eq]
    omega
  · exact h.imp fun {a b} hab => decide_eq_false (Nat.not_le_of_lt hab)

theorem reverse_take_newestFirst {messages : List Message} (h : Timed messages) (limit : Nat) :
    ((newestFirst messages).take limit).reverse =
      messages.drop (messages.length - min limit messages.length) := by
  rw [newestFirst_eq_reverse h, List.take_reverse, List.reverse_reverse]
  congr 1
  omega

theorem timed_messagesOf (h : Timed db.messages.rows) (conversation : Nat) :
    Timed (messagesOf db conversation) :=
  List.Pairwise.sublist List.filter_sublist h

theorem history_read (hsound : Sound db) {q : Question}
    (h : question? repr env db call = some q) :
    getConversationHistory (q.stored env) call.tenant q.conversation.id 10
        (q.opened.messages.created (q.row env)).id =
      some (join "" (((newestFirst (messagesOf db q.conversation.id)).take 10).reverse.map
        historyLine)) := by
  obtain ⟨hopened, hmessages, -, -⟩ := openedIn_of_question repr h
  have hkey : (q.opened.messages.created (q.row env)).id ≠ 0 := by
    rw [hmessages]
    exact hsound.numbered.ne'
  rw [getConversationHistory, getQueryset_eq (followsChatbot_message _ _), hopened.wellFormed]
  simp only [Bool.false_eq_true, if_false, Option.map_some]
  rw [if_pos hkey, messages_read repr hsound h]

theorem history_of_question (hsound : Sound db) (htimed : Timed db.messages.rows) {q : Question}
    (h : question? repr env db call = some q) :
    getConversationHistory (q.stored env) call.tenant q.conversation.id 10
        (q.opened.messages.created (q.row env)).id =
      some (join "" ((remembered db q.conversation.id).map historyLine)) := by
  rw [history_read repr hsound h, reverse_take_newestFirst (timed_messagesOf htimed _), remembered]

end History

section Runs

/-- What happens to the tables of conversations and messages: messages are
appended, each to a stored conversation, and no conversation is removed. -/
structure Extends (db after : Database) : Prop where
  next : db.messages.next ≤ after.messages.next
  rows : ∃ new, after.messages.rows = db.messages.rows ++ new ∧
    ∀ m ∈ new, ∃ c ∈ after.conversations.rows, c.id = m.conversation
  kept : ∀ r ∈ db.conversations.rows, ∃ s ∈ after.conversations.rows, s.id = r.id

theorem Sound.of_extends {after : Database} (h : Sound db) (hextends : Extends db after) :
    Sound after where
  numbered := Nat.lt_of_lt_of_le h.numbered hextends.next
  referenced := by
    obtain ⟨new, hrows, hnew⟩ := hextends.rows
    intro m hm
    rw [hrows] at hm
    rcases List.mem_append.mp hm with hm | hm
    · obtain ⟨c, hc, hid⟩ := h.referenced m hm
      obtain ⟨s, hs, hsid⟩ := hextends.kept c hc
      exact ⟨s, hs, hsid.trans hid⟩
    · exact hnew m hm

theorem exists_kept_of_mem_iff {opened : Database} {c found : Conversation}
    (hid : c.id = found.id)
    (hmem : ∀ r, r ∈ opened.conversations.rows ↔
      r = c ∨ (r ∈ db.conversations.rows ∧ r.id ≠ found.id)) :
    ∀ r ∈ db.conversations.rows, ∃ s ∈ opened.conversations.rows, s.id = r.id := by
  intro r hr
  by_cases hrid : r.id = found.id
  · exact ⟨c, (hmem c).mpr (Or.inl rfl), hid.trans hrid.symm⟩
  · exact ⟨r, (hmem r).mpr (Or.inr ⟨hr, hrid⟩), rfl⟩

theorem kept_openFor (env : ChatEnv) (db : Database) (call : ChatCall) (visitor : Visitor) :
    ∀ r ∈ db.conversations.rows,
      ∃ s ∈ (openFor env db call visitor).1.conversations.rows, s.id = r.id := by
  intro r hr
  unfold openFor
  split
  · exact ⟨r, hr, rfl⟩
  · exact ⟨r, (db.conversations.mem_create _ r).mpr (Or.inl hr), rfl⟩
  · rename_i found hquery
    have hfound := (mem_conversationsOf hquery found List.mem_cons_self).1
    have hmarked := mem_updatePreview call hfound
    have hlinked := mem_linkVisitor visitor ((hmarked _).mpr (Or.inl rfl))
    obtain ⟨s, hs, hsid⟩ :=
      exists_kept_of_mem_iff (updatePreview_same db call found).1 hmarked r hr
    obtain ⟨t, ht, htid⟩ :=
      exists_kept_of_mem_iff (linkVisitor_same _ call visitor _).1 hlinked s hs
    exact ⟨t, ht, htid.trans hsid⟩
  · exact ⟨r, hr, rfl⟩

theorem kept_openConversation (env : ChatEnv) (db : Database) (call : ChatCall) :
    ∀ r ∈ db.conversations.rows,
      ∃ s ∈ (openConversation env db call).1.conversations.rows, s.id = r.id := by
  obtain ⟨-, -, hrows⟩ := getOrCreateVisitor_frame db call.visitorId
  have hkept := kept_openFor env (getOrCreateVisitor db call.visitorId).1 call
    (getOrCreateVisitor db call.visitorId).2
  rw [hrows] at hkept
  exact hkept

theorem next_le_foldl_applyWrite (writes : List ReplyWrite) (db : Database) :
    db.messages.next ≤ (writes.foldl applyWrite db).messages.next := by
  induction writes generalizing db with
  | nil => exact Nat.le_refl _
  | cons write rest ih =>
      refine Nat.le_trans ?_ (ih (applyWrite db write))
      cases write with
      | message row => exact Nat.le_succ _
      | usage row => exact Nat.le_refl _

theorem next_le_converse (env : ChatEnv) (db : Database) (call : ChatCall) (language : String)
    (processing : Json) (c : Conversation) :
    db.messages.next ≤ (converse repr env db call language processing c).1.messages.next := by
  unfold converse
  split
  · exact Nat.le_refl _
  · dsimp only
    refine Nat.le_trans ?_ (next_le_foldl_applyWrite _ _)
    exact Nat.le_succ _

theorem extends_handle (db : Database) (x : Exchange) : Extends db (handle repr db x) := by
  have hmessages := openConversation_messages x.env db x.call
  have hkept := kept_openConversation x.env db x.call
  unfold handle
  rcases processChatMessage_cases repr x.env db x.call with
    ⟨e, hout⟩ | ⟨e, hout⟩ | ⟨language, processing, c, hopen, hout⟩
  · rw [hout]
    exact ⟨Nat.le_refl _, ⟨[], by simp, by simp⟩, fun r hr => ⟨r, hr, rfl⟩⟩
  · rw [hout]
    exact ⟨by rw [hmessages], ⟨[], by simp [hmessages], by simp⟩, hkept⟩
  · obtain ⟨-, hrows, new, hadded, hin, -⟩ := converse_spec repr x.env x.call
      (openConversation x.env db x.call).1 language processing c
    have hnext := next_le_converse repr x.env (openConversation x.env db x.call).1 x.call
      language processing c
    rw [hmessages] at hadded hnext
    rw [hout]
    refine ⟨hnext, ⟨new, hadded, ?_⟩, ?_⟩
    · intro m hm
      exact ⟨c, hrows ▸ (openConversation_ok hopen).1, (hin m hm).symm⟩
    · rw [hrows]
      exact hkept

theorem timed_of_mem_visits {start : Database} {exchanges : List Exchange}
    (htimed : Timed (exchanges.foldl (handle repr) start).messages.rows) :
    ∀ visit ∈ visits (handle repr) start exchanges, Timed visit.1.messages.rows := by
  have hstep : ∀ db x, db.messages.rows <+: (handle repr db x).messages.rows := by
    intro db x
    obtain ⟨new, hrows, -⟩ := (extends_handle repr db x).rows
    rw [hrows]
    exact List.prefix_append _ _
  have hrun := rel_of_mem_visits (fun db after => db.messages.rows <+: after.messages.rows)
    (fun _ => List.prefix_rfl) (fun _ _ _ => List.IsPrefix.trans) hstep exchanges start
  intro visit hvisit
  exact htimed.sublist (hrun.2 visit hvisit).sublist

/-- The memory of conversations: over every run, an exchange that stores its
question and gets an answer from the retrieval calls `build_rag_prompt` with the
last messages, at most ten, that the conversation had before it.  They are in the
order of their times, and the question is not among them. -/
theorem history_of_visit {start : Database} (hsound : Sound start) (exchanges : List Exchange)
    (htimed : Timed (exchanges.foldl (handle repr) start).messages.rows) :
    ∀ visit ∈ visits (handle repr) start exchanges,
      promptArguments? repr visit.2.env visit.1 visit.2.call =
        (question? repr visit.2.env visit.1 visit.2.call).bind (fun q =>
          (grounding (visit.2.env.search q.processing)).map fun ground =>
            { stored := q
              context := ground.context
              history := join "" ((remembered visit.1 q.conversation.id).map historyLine) }) ∧
      ∀ q, question? repr visit.2.env visit.1 visit.2.call = some q →
        Timed (remembered visit.1 q.conversation.id) ∧
        ∀ m ∈ remembered visit.1 q.conversation.id, m.conversation = q.conversation.id ∧
          m.id ≠ (q.opened.messages.created (q.row visit.2.env)).id := by
  intro visit hvisit
  have hvisited : Sound visit.1 :=
    (invariant_of_mem_visits (fun _ x _ h => h.of_extends (extends_handle repr _ x)) hsound
      visit hvisit).1
  have hbefore := timed_of_mem_visits repr htimed visit hvisit
  constructor
  · unfold promptArguments?
    cases hq : question? repr visit.2.env visit.1 visit.2.call with
    | none => rfl
    | some q =>
        rw [Option.bind_some, history_of_question repr hvisited hbefore hq, Option.bind_some,
          Option.bind_some]
  · intro q hq
    refine ⟨(timed_messagesOf hbefore _).sublist (List.drop_sublist _ _), fun m hm => ?_⟩
    obtain ⟨-, hmessages, -, -⟩ := openedIn_of_question repr hq
    obtain ⟨hrow, hin⟩ := List.mem_filter.mp (List.mem_of_mem_drop hm)
    have hlt : m.id < visit.1.messages.next := visit.1.messages.fresh m hrow
    rw [hmessages]
    exact ⟨of_decide_eq_true hin, hlt.ne⟩

end Runs

section TwoVisitors

/-- A blocking exchange whose messages are stored at the given time and right
after it. -/
def blockingExchange (visitorId : String) (time : Nat) : Exchange where
  env := { plainEnv with startedAt := time, answeredAt := time + 1 }
  call := { plainCall visitorId false with stream := false }

/-- A visitor asks again after another one has asked. -/
def twoVisitors : List Exchange :=
  [blockingExchange "first" 1, blockingExchange "second" 3, blockingExchange "first" 5]

theorem sound_supportDb : Sound supportDb where
  numbered := by decide
  referenced := fun _ hm => absurd hm List.not_mem_nil

theorem twoVisitors_remembered :
    ∃ visit ∈ visits (handle noRepr) supportDb twoVisitors,
      visit.2 = blockingExchange "first" 5 ∧
      (promptArguments? noRepr visit.2.env visit.1 visit.2.call).map PromptArguments.history =
        some "User: Hi\nAssistant: Hello.\n" := by
  have htimed : Timed (twoVisitors.foldl (handle noRepr) supportDb).messages.rows := by
    unfold Timed
    decide
  have hvisits := history_of_visit noRepr sound_supportDb twoVisitors htimed
  refine ⟨_, List.mem_cons_of_mem _ (List.mem_cons_of_mem _ List.mem_cons_self), rfl, ?_⟩
  rw [(hvisits _ (List.mem_cons_of_mem _ (List.mem_cons_of_mem _ List.mem_cons_self))).1]
  rfl

end TwoVisitors

end Botman.ConversationMemory
