import Botman.Library.NonInterference
import Botman.ChatIsolation
import Botman.ConversationMemory

/-!
A visitor of a chatbot gets the same answers, and the same conversation is stored, whatever
other visitors and other chatbots are asked.

The conversations of a visitor are first read without the keys of their rows, which do
depend on the others.  On such rooms `process_chat_message` is a function of its own, and
the code refines it.
-/

namespace Botman.VisitorIsolation

open Botman.Library.KeyedTable
open Botman.Library.PythonValue
open Botman.Library.Transition
open Botman.Library.NonInterference
open Botman.DataModel
open Botman.TenantContext
open Botman.TenantPrograms
open Botman.Prompts
open Botman.ChatbotSettings
open Botman.ChatService
open Botman.ChatEffects
open Botman.ChatPrompt
open Botman.AnswerRecords
open Botman.StreamAccounting
open Botman.ChatConcurrency
open Botman.ChatIsolation
open Botman.ConversationMemory

section Rooms

/-- A message without its keys. -/
structure Talk where
  sender : Sender
  content : String
  createdAt : Nat
  latency : Option ℚ
  tokenUsage : Int
  source : Option String
  confidenceScore : Option ℚ
  deriving DecidableEq

/-- A conversation without its keys, with its messages. -/
structure Room where
  isLinked : Bool
  session : Option Nat
  isPreview : Bool
  startedAt : Nat
  talks : List Talk
  deriving DecidableEq

/-- A usage row without its keys. -/
structure Spent where
  provider : String
  tokensInput : Int
  tokensOutput : Int
  totalTokens : Int
  deriving DecidableEq

/-- How a call ends, without the keys of rows. -/
inductive Outcome where
  | raised (error : ChatError)
  | answered (text : String)
  | streaming (events : List SseEvent)

/-- A reply without its keys. -/
structure Told where
  talks : List Talk
  spent : List Spent
  outcome : Outcome

/-- A message without its keys. -/
def talkOf (m : Message) : Talk where
  sender := m.sender
  content := m.content
  createdAt := m.createdAt
  latency := m.latency
  tokenUsage := m.tokenUsage
  source := m.source
  confidenceScore := m.confidenceScore

def spentOf (u : TokenUsage) : Spent where
  provider := u.provider
  tokensInput := u.tokensInput
  tokensOutput := u.tokensOutput
  totalTokens := u.totalTokens

def outcomeOf : ChatResult → Outcome
  | .raised e => .raised e
  | .answered text _ => .answered text
  | .streaming events => .streaming events

def talkWritten : ReplyWrite → Option Talk
  | .message row => some (talkOf row)
  | .usage _ => none

def spentWritten : ReplyWrite → Option Spent
  | .message _ => none
  | .usage row => some (spentOf row)

/-- What a reply writes and returns, without keys. -/
def toldOf (reply : Reply) : Told where
  talks := reply.writes.filterMap talkWritten
  spent := reply.writes.filterMap spentWritten
  outcome := outcomeOf reply.result

end Rooms

section Answering

variable (repr : Json → String) (env : ChatEnv) (call : ChatCall) (language : String)
  (processing : Json)

/-- The part of `respond` after the history was read. -/
def replyFor (c : Conversation) (history : String) : Reply :=
  match grounding (env.search processing) with
  | none => failWith .external
  | some ground =>
      match buildRagPrompt repr (chatBot call.bot call.previewMode) ground.context history
        processing with
      | none => failWith .attributeError
      | some prompt =>
          if call.stream ∧ isEnglish language then
            streamedReply repr env call c ground prompt
          else blockingReply repr env call c ground language prompt

theorem respond_eq_replyFor {db : Database} {c : Conversation} {messageId : Nat}
    {history : String}
    (h : getConversationHistory db call.tenant c.id 10 messageId = some history) :
    respond repr env db call language processing c messageId =
      replyFor repr env call language processing c history := by
  unfold respond replyFor
  rw [h]
  cases grounding (env.search processing) <;> rfl

def talkLine (talk : Talk) : String :=
  (match talk.sender with
    | .user => "User"
    | .bot => "Assistant") ++ ": " ++ talk.content ++ "\n"

/-- The history of a prompt, from the messages of a room. -/
def historyOf (talks : List Talk) : String :=
  join "" (((talks.mergeSort fun a b => b.createdAt ≤ a.createdAt).take 10).reverse.map talkLine)

/-- A reply is told in any conversation alike. -/
def keyless : Conversation where
  id := 0
  chatbot := 0
  visitorIdentifier := ""
  visitor := none
  session := none
  isPreview := false
  startedAt := 0

/-- The reply in a room. -/
def tell (talks : List Talk) : Told :=
  toldOf (replyFor repr env call language processing keyless (historyOf talks))

def question (content : String) : Talk :=
  talkOf (userMessage env 0 content)

/-- A call in its room. -/
def converseIn (room : Room) : Room × List Spent × Outcome :=
  match textColumn repr call.message with
  | none => (room, [], .raised .integrityError)
  | some content =>
      let told := tell repr env call language processing room.talks
      ({ room with talks := room.talks ++ question env content :: told.talks }, told.spent,
        told.outcome)

end Answering

/-- The room of a visitor's first call. -/
def newRoom (env : ChatEnv) (call : ChatCall) : Room where
  isLinked := true
  session := none
  isPreview := call.previewMode
  startedAt := env.startedAt
  talks := []

/-- A call links the room and sets its mode. -/
def enter (call : ChatCall) (room : Room) : Room :=
  { room with isLinked := true, isPreview := call.previewMode }

/-- `get_or_create` on the rooms of a visitor: the rooms that stay as they are, and the one
that the call is in. -/
def openRoom (env : ChatEnv) (call : ChatCall) :
    Option Bool → List Room → Except ChatError (List Room × Room)
  | none, _ => .error .valueError
  | some false, rooms => .ok (rooms, newRoom env call)
  | some true, [] => .ok ([], newRoom env call)
  | some true, [room] => .ok ([], enter call room)
  | some true, _ :: _ :: _ => .error .multipleObjectsReturned

/-- `process_chat_message` on the rooms of its visitor. -/
def chat (repr : Json → String) (shown : Option Bool) (rooms : List Room) (x : Exchange) :
    List Room × List Spent × Outcome :=
  match prepare x.env x.call with
  | .error e => (rooms, [], .raised e)
  | .ok (language, processing) =>
      match openRoom x.env x.call shown rooms with
      | .error e => (rooms, [], .raised e)
      | .ok (others, room) =>
          let out := converseIn repr x.env x.call language processing room
          (others ++ [out.1], out.2)

section Views

/-- The conversations of a chatbot with a visitor. -/
def conversationsFor (db : Database) (pair : Nat × String) : List Conversation :=
  db.conversations.rows.filter fun c => (placeOf c).2 = pair

/-- A conversation as a room. -/
def roomOf (db : Database) (c : Conversation) : Room where
  isLinked := c.visitor.isSome
  session := c.session
  isPreview := c.isPreview
  startedAt := c.startedAt
  talks := (messagesOf db c.id).map talkOf

/-- The rooms of a visitor, which are all that the database has of them. -/
def roomsOf (db : Database) (pair : Nat × String) : List Room :=
  (conversationsFor db pair).map (roomOf db)

/-- Whether a context shows the conversations of a chatbot, absent where the query raises. -/
def shownTo (db : Database) (tenant : Tenant) (bot : Nat) : Option Bool :=
  if isMalformed tenant then none else some (decide (Shows db tenant (some bot)))

/-- What a call spends, and how it ends. -/
def outputOf (repr : Json → String) (db : Database) (x : Exchange) : List Spent × Outcome :=
  let out := processChatMessage repr x.env db x.call
  ((out.1.tokenUsages.rows.drop db.tokenUsages.rows.length).map spentOf, outcomeOf out.2)

end Views

section Replies

variable {repr : Json → String} {env : ChatEnv} {call : ChatCall}

theorem toldOf_streamedReply (c d : Conversation) (ground : Grounding) (prompt : String) :
    toldOf (streamedReply repr env call c ground prompt) =
      toldOf (streamedReply repr env call d ground prompt) := by
  unfold streamedReply replyWrites
  dsimp only
  cases streamResponse (chatBot call.bot call.previewMode).selectedLlm
      (env.stream (chatBot call.bot call.previewMode).selectedLlm prompt) with
  | none => rfl
  | some streamed =>
      dsimp only
      cases env.delivered with
      | some count => rfl
      | none => cases totalTokens streamed.usage <;> rfl

theorem toldOf_blockingReply (c d : Conversation) (ground : Grounding)
    (language prompt : String) :
    toldOf (blockingReply repr env call c ground language prompt) =
      toldOf (blockingReply repr env call d ground language prompt) := by
  unfold blockingReply replyWrites
  dsimp only
  cases env.answer (chatBot call.bot call.previewMode).selectedLlm prompt with
  | raised => rfl
  | returned text usage =>
      dsimp only
      generalize (if isEnglish language then text else
        env.translate (chatBot call.bot call.previewMode).selectedLlm text language) = shown
      cases shown with
      | none => rfl
      | some text =>
          cases totalTokens usage with
          | none => rfl
          | some total => cases call.stream <;> rfl

theorem toldOf_replyFor (language : String) (processing : Json) (c d : Conversation)
    (history : String) :
    toldOf (replyFor repr env call language processing c history) =
      toldOf (replyFor repr env call language processing d history) := by
  unfold replyFor
  split
  · rfl
  · split
    · rfl
    · split
      · exact toldOf_streamedReply c d _ _
      · exact toldOf_blockingReply c d _ _ _

theorem talks_foldl_applyWrite {writes : List ReplyWrite} {conversation : Nat}
    (h : ∀ w ∈ writes, IsIn conversation w) (db : Database) :
    (messagesOf (writes.foldl applyWrite db) conversation).map talkOf =
      (messagesOf db conversation).map talkOf ++ writes.filterMap talkWritten := by
  induction writes generalizing db with
  | nil => simp
  | cons w rest ih =>
      have hw := h w List.mem_cons_self
      rw [List.foldl_cons, ih (fun v hv => h v (List.mem_cons_of_mem _ hv))]
      cases w with
      | message row =>
          have hin : (db.messages.created row).conversation = conversation := hw
          have hadded : messagesOf (applyWrite db (.message row)) conversation =
              messagesOf db conversation ++ [db.messages.created row] := by
            simp [messagesOf, applyWrite, hin]
          rw [hadded, List.map_append, List.append_assoc]
          rfl
      | usage row => rfl

theorem spent_foldl_applyWrite (writes : List ReplyWrite) (db : Database) :
    (writes.foldl applyWrite db).tokenUsages.rows.map spentOf =
      db.tokenUsages.rows.map spentOf ++ writes.filterMap spentWritten := by
  induction writes generalizing db with
  | nil => simp
  | cons w rest ih =>
      rw [List.foldl_cons, ih]
      cases w with
      | message row => rfl
      | usage row =>
          have hadded : (applyWrite db (.usage row)).tokenUsages.rows =
              db.tokenUsages.rows ++ [db.tokenUsages.created row] := by
            simp [applyWrite]
          rw [hadded, List.map_append, List.append_assoc]
          rfl

theorem historyOf_map_talkOf (messages : List Message) :
    historyOf (messages.map talkOf) =
      join "" (((newestFirst messages).take 10).reverse.map historyLine) := by
  have hsorted : (messages.map talkOf).mergeSort (fun a b => b.createdAt ≤ a.createdAt) =
      (newestFirst messages).map talkOf := by
    refine (List.map_mergeSort ?_).symm
    intro a _ b _
    rfl
  rw [historyOf, hsorted, ← List.map_take, ← List.map_reverse, List.map_map]
  rfl

end Replies

section Opening

variable {repr : Json → String} {env : ChatEnv} {db : Database} {call : ChatCall}

/-- A conversation that was found is left as it is, or another row is saved under its key
for the same chatbot and visitor. -/
def Rewrites (db : Database) (found : Conversation) (out : Database × Conversation) : Prop :=
  out = (db, found) ∨ out.1 = saveConversation db out.2 ∧ placeOf out.2 = placeOf found

theorem rewrites_updatePreview (db : Database) (call : ChatCall) (c : Conversation) :
    Rewrites db c (updatePreview db call c) := by
  unfold updatePreview
  split
  · exact Or.inr ⟨rfl, rfl⟩
  · exact Or.inl rfl

theorem rewrites_linkVisitor (db : Database) (visitor : Visitor) (c : Conversation) :
    Rewrites db c (linkVisitor db visitor c) := by
  unfold linkVisitor
  split
  · exact Or.inr ⟨rfl, rfl⟩
  · exact Or.inl rfl

theorem Rewrites.place {found : Conversation} {out : Database × Conversation}
    (h : Rewrites db found out) : placeOf out.2 = placeOf found := by
  rcases h with rfl | ⟨-, hplace⟩
  · rfl
  · exact hplace

theorem mem_conversationsFor {pair : Nat × String} {c : Conversation} :
    c ∈ conversationsFor db pair ↔ c ∈ db.conversations.rows ∧ (placeOf c).2 = pair := by
  simp [conversationsFor]

theorem conversationsFor_save {c found : Conversation} (hfound : found ∈ db.conversations.rows)
    (hplace : placeOf c = placeOf found) (pair : Nat × String) :
    conversationsFor (saveConversation db c) pair =
      (conversationsFor db pair).map (Table.overwrite c) := by
  have hkey : found.id = c.id := (congrArg Prod.fst hplace).symm
  rw [conversationsFor, saveConversation,
    db.conversations.rows_save_of_exists c ⟨found, hfound, hkey⟩, List.filter_map,
    conversationsFor]
  congr 1
  refine List.filter_congr fun r hr => ?_
  -- the row that is replaced has the place of the new one
  rw [Function.comp_apply, Table.overwrite]
  split
  · rename_i hsame
    rw [hplace, db.conversations.eq_of_key_eq hr hfound (hsame.trans hkey.symm)]
  · rfl

theorem Rewrites.conversationsFor_other {found : Conversation} {out : Database × Conversation}
    (h : Rewrites db found out) (hfound : found ∈ db.conversations.rows) {pair : Nat × String}
    (hother : (placeOf found).2 ≠ pair) :
    conversationsFor out.1 pair = conversationsFor db pair := by
  rcases h with rfl | ⟨hsaved, hplace⟩
  · rfl
  · rw [hsaved, conversationsFor_save hfound hplace]
    refine (List.map_congr_left fun r hr => ?_).trans (List.map_id _)
    obtain ⟨hmem, hpair⟩ := mem_conversationsFor.mp hr
    refine if_neg fun hkey => hother ?_
    have hid : r.id = found.id := hkey.trans (congrArg Prod.fst hplace)
    rw [← db.conversations.eq_of_key_eq hmem hfound hid, hpair]

theorem Rewrites.conversationsFor_own {found : Conversation} {out : Database × Conversation}
    (h : Rewrites db found out) {pair : Nat × String}
    (hone : conversationsFor db pair = [found]) :
    conversationsFor out.1 pair = [out.2] := by
  have hfound : found ∈ conversationsFor db pair := hone ▸ List.mem_cons_self
  rcases h with rfl | ⟨hsaved, hplace⟩
  · exact hone
  · rw [hsaved, conversationsFor_save (mem_conversationsFor.mp hfound).1 hplace, hone,
      List.map_singleton]
    exact congrArg (· :: []) (if_pos (congrArg Prod.fst hplace).symm)

theorem isFor_iff_pair {c : Conversation} :
    call.isFor c = true ↔ (placeOf c).2 = pairOf call := by
  rw [ChatCall.isFor_iff, pairOf, placeOf, Prod.mk.injEq]

theorem conversationsOf_eq_conversationsFor (db : Database) (call : ChatCall) :
    conversationsOf db call = (shownTo db call.tenant call.bot.id).map fun shown =>
      if shown then conversationsFor db (pairOf call) else [] := by
  rw [conversationsOf_eq, shownTo]
  split
  · rfl
  · rw [Option.map_some, List.filter_filter]
    congr 1
    -- where the call is for a conversation, its chatbot is the one of the call
    by_cases hshows : Shows db call.tenant (some call.bot.id)
    · rw [if_pos (decide_eq_true hshows)]
      refine List.filter_congr fun c _ => ?_
      rw [Bool.eq_iff_iff, Bool.and_eq_true, isFor_iff_pair]
      simp only [decide_eq_true_eq]
      refine ⟨And.left, fun hpair => ⟨hpair, ?_⟩⟩
      rw [show c.chatbot = call.bot.id from congrArg Prod.fst hpair]
      exact hshows
    · rw [if_neg (by simpa using hshows), List.filter_eq_nil_iff]
      intro c _ hkept
      obtain ⟨hfor, hshown⟩ := Bool.and_eq_true_iff.mp hkept
      rw [(ChatCall.isFor_iff.mp hfor).1] at hshown
      exact hshows (of_decide_eq_true hshown)

theorem pairOf_newConversation (env : ChatEnv) (call : ChatCall) (visitor : Visitor) :
    (placeOf (newConversation env call visitor)).2 = pairOf call :=
  rfl

theorem conversationsFor_create (db : Database) (row : Conversation) (pair : Nat × String) :
    conversationsFor { db with conversations := db.conversations.create row } pair =
      conversationsFor db pair ++
        if (placeOf row).2 = pair then [db.conversations.created row] else [] := by
  have hplace : (placeOf (db.conversations.created row)).2 = (placeOf row).2 := rfl
  rw [conversationsFor, Table.rows_create, List.filter_append, conversationsFor,
    List.filter_singleton, hplace]
  congr 1
  split <;> simp_all

theorem conversationsFor_openFor_other (env : ChatEnv) (visitor : Visitor)
    {pair : Nat × String} (hother : pairOf call ≠ pair) :
    conversationsFor (openFor env db call visitor).1 pair = conversationsFor db pair := by
  unfold openFor
  split
  · rfl
  · refine (conversationsFor_create db _ pair).trans ?_
    rw [pairOf_newConversation, if_neg hother, List.append_nil]
  · rename_i found hquery
    obtain ⟨hmem, hfor⟩ := mem_conversationsOf hquery found List.mem_cons_self
    have hmarked := rewrites_updatePreview db call found
    have hlinked := rewrites_linkVisitor (updatePreview db call found).1 visitor
      (updatePreview db call found).2
    have hpair : (placeOf found).2 ≠ pair := by
      rw [isFor_iff_pair.mp hfor]
      exact hother
    refine (hlinked.conversationsFor_other ?_ (hmarked.place ▸ hpair)).trans
      (hmarked.conversationsFor_other hmem hpair)
    exact (mem_updatePreview call hmem _).mpr (Or.inl rfl)
  · rfl

/-- What the rooms of a visitor say about a conversation that is opened for it. -/
def OpensRoom (db : Database) (call : ChatCall) (out : Database × Except ChatError Conversation) :
    Except ChatError (List Room × Room) → Prop
  | .error e => out.2 = .error e ∧
      conversationsFor out.1 (pairOf call) = conversationsFor db (pairOf call)
  | .ok (others, room) => ∃ before c, out.2 = .ok c ∧
      conversationsFor out.1 (pairOf call) = before ++ [c] ∧
        before.map (roomOf out.1) = others ∧ roomOf out.1 c = room

theorem messagesOf_next (hsound : Sound db) : messagesOf db db.conversations.next = [] := by
  refine List.filter_eq_nil_iff.mpr fun m hm hin => ?_
  obtain ⟨c, hc, hid⟩ := hsound.referenced m hm
  have hlt : c.id < db.conversations.next := db.conversations.fresh c hc
  have hnext : m.conversation = db.conversations.next := of_decide_eq_true hin
  omega

theorem roomOf_congr {after : Database} (h : after.messages = db.messages) :
    roomOf after = roomOf db := by
  funext c
  rw [roomOf, messagesOf, h, roomOf, messagesOf]

theorem roomOf_entered (db : Database) (call : ChatCall) (visitor : Visitor) (c : Conversation) :
    let marked := updatePreview db call c
    let linked := linkVisitor marked.1 visitor marked.2
    roomOf linked.1 linked.2 = enter call (roomOf db c) := by
  intro marked linked
  have hmessages : linked.1.messages = db.messages :=
    (linkVisitor_frame _ _ _).2.trans (updatePreview_frame _ _ _).2
  rw [roomOf_congr hmessages]
  simp only [linked, marked, linkVisitor, updatePreview]
  split <;> split <;> simp_all [roomOf, enter, Option.isSome_iff_ne_none]

theorem opensRoom_created (hsound : Sound db) (env : ChatEnv) (call : ChatCall)
    (visitor : Visitor) :
    let row := newConversation env call visitor
    OpensRoom db call ({ db with conversations := db.conversations.create row },
        .ok (db.conversations.created row))
      (.ok (roomsOf db (pairOf call), newRoom env call)) := by
  intro row
  refine ⟨conversationsFor db (pairOf call), db.conversations.created row, rfl, ?_, rfl, ?_⟩
  · refine (conversationsFor_create db row _).trans ?_
    rw [pairOf_newConversation, if_pos rfl]
  · have hnone : messagesOf db (db.conversations.created row).id = [] := messagesOf_next hsound
    show roomOf db (db.conversations.created row) = newRoom env call
    rw [roomOf, hnone]
    rfl

theorem opensRoom_openFor (hsound : Sound db) (env : ChatEnv) (call : ChatCall)
    (visitor : Visitor) :
    OpensRoom db call (openFor env db call visitor)
      (openRoom env call (shownTo db call.tenant call.bot.id) (roomsOf db (pairOf call))) := by
  have hquery := conversationsOf_eq_conversationsFor db call
  unfold openFor
  rw [hquery]
  cases shownTo db call.tenant call.bot.id with
  | none => exact ⟨rfl, rfl⟩
  | some shown =>
      cases shown with
      | false => exact opensRoom_created hsound env call visitor
      | true =>
          rw [Option.map_some, if_pos rfl]
          have hnew := opensRoom_created hsound env call visitor
          unfold roomsOf at hnew ⊢
          match hmine : conversationsFor db (pairOf call) with
          | [] =>
              rw [hmine] at hnew
              exact hnew
          | [found] =>
              have hmarked := (rewrites_updatePreview db call found).conversationsFor_own hmine
              have hlinked := (rewrites_linkVisitor _ visitor _).conversationsFor_own hmarked
              exact ⟨[], _, rfl, hlinked, rfl, roomOf_entered db call visitor found⟩
          | first :: second :: rest => exact ⟨rfl, rfl⟩

theorem opensRoom_openConversation (hsound : Sound db) (env : ChatEnv) (call : ChatCall) :
    OpensRoom db call (openConversation env db call)
      (openRoom env call (shownTo db call.tenant call.bot.id) (roomsOf db (pairOf call))) := by
  unfold openConversation getOrCreateVisitor
  split
  · exact opensRoom_openFor hsound env call _
  · let known := { db with visitors := db.visitors.create (newVisitor call.visitorId) }
    have hknown : Sound known := ⟨hsound.numbered, hsound.referenced⟩
    exact opensRoom_openFor hknown env call _

theorem openConversation_chatbots (env : ChatEnv) (db : Database) (call : ChatCall) :
    (openConversation env db call).1.chatbots = db.chatbots := by
  obtain ⟨hbots, -, -⟩ := getOrCreateVisitor_frame db call.visitorId
  unfold openConversation openFor
  simp only
  split
  · exact hbots
  · exact hbots
  · rw [(linkVisitor_frame _ _ _).1, (updatePreview_frame _ _ _).1]
    exact hbots
  · exact hbots

theorem conversationsFor_openConversation_other (env : ChatEnv) (db : Database)
    {pair : Nat × String} (hother : pairOf call ≠ pair) :
    conversationsFor (openConversation env db call).1 pair = conversationsFor db pair := by
  obtain ⟨-, -, hrows⟩ := getOrCreateVisitor_frame db call.visitorId
  refine (conversationsFor_openFor_other env _ hother).trans ?_
  rw [conversationsFor, hrows, conversationsFor]

end Opening

section Conversing

variable {repr : Json → String} {env : ChatEnv} {db : Database} {call : ChatCall}
  {language : String} {processing : Json}

theorem history_of_room (hsound : Sound db) {opened : Database} {c : Conversation}
    (hprepare : prepare env call = .ok (language, processing))
    (hopen : openConversation env db call = (opened, .ok c)) {content : String}
    (hcontent : textColumn repr call.message = some content) :
    getConversationHistory
        { opened with messages := opened.messages.create (userMessage env c.id content) }
        call.tenant c.id 10 (opened.messages.created (userMessage env c.id content)).id =
      some (historyOf (roomOf opened c).talks) := by
  have hquestion : question? repr env db call =
      some ⟨language, processing, opened, c, content⟩ := by
    simp only [question?, hprepare, hopen, hcontent]
  have hmessages : opened.messages = db.messages := by
    rw [← openConversation_messages env db call, hopen]
  refine (history_read repr hsound hquestion).trans ?_
  rw [roomOf_congr hmessages, roomOf, historyOf_map_talkOf]

theorem converse_in_room (repr : Json → String) (language : String) (processing : Json)
    {c : Conversation}
    (hhistory : ∀ content, textColumn repr call.message = some content →
      getConversationHistory
          { db with messages := db.messages.create (userMessage env c.id content) }
          call.tenant c.id 10 (db.messages.created (userMessage env c.id content)).id =
        some (historyOf (roomOf db c).talks)) :
    let out := converse repr env db call language processing c
    let inside := converseIn repr env call language processing (roomOf db c)
    roomOf out.1 c = inside.1 ∧
      out.1.tokenUsages.rows.map spentOf = db.tokenUsages.rows.map spentOf ++ inside.2.1 ∧
        outcomeOf out.2 = inside.2.2 := by
  intro out inside
  simp only [out, inside, converse, converseIn]
  cases hcontent : textColumn repr call.message with
  | none => exact ⟨rfl, (List.append_nil _).symm, rfl⟩
  | some content =>
      let row := userMessage env c.id content
      let stored := { db with messages := db.messages.create row }
      have hreply := respond_eq_replyFor repr env call language processing
        (hhistory content hcontent)
      have hin : ∀ w ∈ (replyFor repr env call language processing c
          (historyOf (roomOf db c).talks)).writes, IsIn c.id w := by
        rw [← hreply]
        exact isIn_of_mem_respond repr env call
      have htold : toldOf (replyFor repr env call language processing c
          (historyOf (roomOf db c).talks)) =
            tell repr env call language processing (roomOf db c).talks :=
        toldOf_replyFor language processing c keyless _
      have hasked : messagesOf stored c.id = messagesOf db c.id ++ [db.messages.created row] := by
        have hrow : (db.messages.created row).conversation = c.id := rfl
        simp [messagesOf, stored, hrow]
      dsimp only
      rw [hreply, ← htold]
      refine ⟨?_, spent_foldl_applyWrite _ stored, rfl⟩
      rw [roomOf, talks_foldl_applyWrite hin stored, hasked, List.map_append, List.append_assoc]
      rfl

theorem roomOf_converse_other (repr : Json → String) (env : ChatEnv) (db : Database)
    (call : ChatCall) (language : String) (processing : Json) {c d : Conversation}
    (hne : d.id ≠ c.id) :
    roomOf (converse repr env db call language processing c).1 d = roomOf db d := by
  obtain ⟨-, -, new, hadded, hin, -⟩ := converse_spec repr env call db language processing c
  have hnone : new.filter (fun m => m.conversation = d.id) = [] := by
    refine List.filter_eq_nil_iff.mpr fun m hm hkey => hne ?_
    rw [← of_decide_eq_true hkey, hin m hm]
  rw [roomOf, messagesOf, hadded, List.filter_append, hnone, List.append_nil]
  rfl

theorem conversationsFor_converse (repr : Json → String) (env : ChatEnv) (db : Database)
    (call : ChatCall) (language : String) (processing : Json) (c : Conversation)
    (pair : Nat × String) :
    conversationsFor (converse repr env db call language processing c).1 pair =
      conversationsFor db pair := by
  obtain ⟨-, hrows, -⟩ := converse_spec repr env call db language processing c
  rw [conversationsFor, hrows, conversationsFor]

end Conversing

section Refinement

variable {repr : Json → String} {db : Database}

theorem id_ne_of_mem_before {pair : Nat × String} {before : List Conversation}
    {c d : Conversation} (h : conversationsFor db pair = before ++ [c]) (hd : d ∈ before) : d.id ≠ c.id := by
  have hkeys : ((before ++ [c]).map HasKey.key).Nodup := by
    rw [← h]
    exact List.Nodup.sublist (List.filter_sublist.map _) db.conversations.nodup
  rw [List.map_append, List.nodup_append] at hkeys
  exact hkeys.2.2 _ (List.mem_map_of_mem hd) _ (List.mem_map_of_mem List.mem_cons_self)

theorem outputOf_eq {x : Exchange} {spent : List Spent}
    (h : (handle repr db x).tokenUsages.rows.map spentOf =
      db.tokenUsages.rows.map spentOf ++ spent) :
    outputOf repr db x = (spent, outcomeOf (processChatMessage repr x.env db x.call).2) := by
  have hlength : db.tokenUsages.rows.length = (db.tokenUsages.rows.map spentOf).length :=
    (List.length_map _).symm
  show (((handle repr db x).tokenUsages.rows.drop db.tokenUsages.rows.length).map spentOf, _) = _
  rw [List.map_drop, h, hlength, List.drop_left]

theorem rooms_of_raised {x : Exchange} {after : Database} {e : ChatError} {pair : Nat × String}
    (hout : processChatMessage repr x.env db x.call = (after, .raised e))
    (hrows : conversationsFor after pair = conversationsFor db pair)
    (hmessages : after.messages = db.messages) (husages : after.tokenUsages = db.tokenUsages) :
    roomsOf (handle repr db x) pair = roomsOf db pair ∧ outputOf repr db x = ([], .raised e) := by
  have hafter : handle repr db x = after := by rw [handle, hout]
  constructor
  · rw [hafter, roomsOf, hrows, roomOf_congr hmessages, roomsOf]
  · have hspent : (handle repr db x).tokenUsages.rows.map spentOf =
        db.tokenUsages.rows.map spentOf ++ [] := by
      rw [hafter, husages, List.append_nil]
    rw [outputOf_eq hspent, hout]
    rfl

theorem rooms_of_opened (repr : Json → String) (hsound : Sound db) {x : Exchange}
    {language : String} {processing : Json} {opened : Database} {before : List Conversation}
    {c : Conversation}
    (hprepare : prepare x.env x.call = .ok (language, processing))
    (hopen : openConversation x.env db x.call = (opened, .ok c))
    (hrows : conversationsFor opened (pairOf x.call) = before ++ [c]) :
    let inside := converseIn repr x.env x.call language processing (roomOf opened c)
    roomsOf (handle repr db x) (pairOf x.call) = before.map (roomOf opened) ++ [inside.1] ∧
      outputOf repr db x = inside.2 := by
  intro inside
  have hout : processChatMessage repr x.env db x.call =
      converse repr x.env opened x.call language processing c := by
    rw [processChatMessage_of_ok repr hprepare (by rw [hopen]), hopen]
  have husages : opened.tokenUsages = db.tokenUsages := by
    rw [← openConversation_tokenUsages x.env db x.call, hopen]
  obtain ⟨hroom, hspent, houtcome⟩ := converse_in_room repr language processing
    fun content => history_of_room hsound hprepare hopen
  constructor
  · have hothers :
        before.map (roomOf (converse repr x.env opened x.call language processing c).1) =
          before.map (roomOf opened) :=
      List.map_congr_left fun d hd =>
        roomOf_converse_other repr x.env opened x.call language processing
          (id_ne_of_mem_before hrows hd)
    rw [handle, hout, roomsOf, conversationsFor_converse, hrows, List.map_append, hothers,
      List.map_singleton, hroom]
  · rw [husages] at hspent
    rw [outputOf_eq (by rw [handle, hout]; exact hspent), hout, houtcome]

/-- The code refines its model on rooms: what it stores for the visitor of a call, what the
call spends and how it ends are read off the visitor's rooms. -/
theorem chat_of_handle (repr : Json → String) (hsound : Sound db) (x : Exchange) :
    let out := chat repr (shownTo db x.call.tenant x.call.bot.id)
      (roomsOf db (pairOf x.call)) x
    roomsOf (handle repr db x) (pairOf x.call) = out.1 ∧ outputOf repr db x = out.2 := by
  have hopens := opensRoom_openConversation hsound x.env x.call
  have hmessages := openConversation_messages x.env db x.call
  have husages := openConversation_tokenUsages x.env db x.call
  intro out
  simp only [out, chat]
  cases hprepare : prepare x.env x.call with
  | error e =>
      have hout : processChatMessage repr x.env db x.call = (db, .raised e) := by
        simp only [processChatMessage, hprepare]
      exact rooms_of_raised hout rfl rfl rfl
  | ok text =>
      dsimp only
      cases hroom : openRoom x.env x.call (shownTo db x.call.tenant x.call.bot.id)
          (roomsOf db (pairOf x.call)) with
      | error e =>
          rw [hroom] at hopens
          obtain ⟨hopen, hrows⟩ := hopens
          refine rooms_of_raised ?_ hrows hmessages husages
          simp only [processChatMessage, hprepare]
          rw [← Prod.mk.eta (p := openConversation x.env db x.call), hopen]
      | ok found =>
          rw [hroom] at hopens
          obtain ⟨before, c, hopen, hrows, hothers, hin⟩ := hopens
          have hafter := rooms_of_opened repr hsound hprepare (Prod.ext rfl hopen) hrows
          rw [hothers, hin] at hafter
          exact hafter

theorem roomsOf_handle_other (repr : Json → String) (db : Database) (x : Exchange)
    {pair : Nat × String} (hother : pairOf x.call ≠ pair) :
    roomsOf (handle repr db x) pair = roomsOf db pair := by
  have hopened := conversationsFor_openConversation_other x.env db hother
  have hmessages := openConversation_messages x.env db x.call
  have hopenRooms : roomsOf (openConversation x.env db x.call).1 pair = roomsOf db pair := by
    rw [roomsOf, hopened, roomOf_congr hmessages, roomsOf]
  unfold handle
  rcases processChatMessage_cases repr x.env db x.call with
    ⟨e, hout⟩ | ⟨e, hout⟩ | ⟨language, processing, c, hopen, hout⟩
  · rw [hout]
  · rw [hout]
    exact hopenRooms
  · obtain ⟨hc, hfor⟩ := openConversation_ok hopen
    rw [hout, ← hopenRooms, roomsOf, conversationsFor_converse]
    refine List.map_congr_left fun d hd => roomOf_converse_other _ _ _ _ _ _ fun hid => hother ?_
    -- a key has one place, so the conversation of the call is not among the visitor's
    obtain ⟨hmem, hpair⟩ := mem_conversationsFor.mp hd
    have hsame : d = c := Table.eq_of_key_eq _ hmem hc hid
    rw [← isFor_iff_pair.mp hfor, ← hsame, hpair]

theorem chatbots_handle (repr : Json → String) (db : Database) (x : Exchange) :
    (handle repr db x).chatbots = db.chatbots := by
  have hopened := openConversation_chatbots x.env db x.call
  unfold handle
  rcases processChatMessage_cases repr x.env db x.call with
    ⟨e, hout⟩ | ⟨e, hout⟩ | ⟨language, processing, c, -, hout⟩
  · rw [hout]
  · rw [hout]
    exact hopened
  · rw [hout]
    exact (converse_spec repr x.env x.call _ language processing c).1.trans hopened

theorem shownTo_handle (repr : Json → String) (db : Database) (x : Exchange) :
    shownTo (handle repr db x) = shownTo db := by
  funext tenant bot
  rw [shownTo, shownTo]
  simp only [shows_of_chatbots (chatbots_handle repr db x)]

end Refinement

section Runs

variable (repr : Json → String) (pair : Nat × String)

/-- A visitor of a chatbot, who sees the rooms and the outputs of the visitor's own calls. -/
def visitor : Observer Database Exchange ((Tenant → Option Bool) × List Room)
    (List Spent × Outcome) where
  view db := (fun tenant => shownTo db tenant pair.1, roomsOf db pair)
  output db x := outputOf repr db x
  concerns x := pairOf x.call = pair

theorem unwinds_visitor : Unwinds (visitor repr pair) (handle repr) Sound where
  kept db x hsound := hsound.of_extends (extends_handle repr db x)
  respects db x _ hother := by
    have hne : pairOf x.call ≠ pair := of_decide_eq_false hother
    show (_, _) = (_, _)
    rw [shownTo_handle, roomsOf_handle_other repr db x hne]
  consistent db other x hdb hother hown hview := by
    obtain rfl : pairOf x.call = pair := of_decide_eq_true hown
    obtain ⟨hshown, hrooms⟩ := Prod.mk.inj hview
    obtain ⟨hfirst, hfirstOut⟩ := chat_of_handle repr hdb x
    obtain ⟨hsecond, hsecondOut⟩ := chat_of_handle repr hother x
    have htold : shownTo db x.call.tenant x.call.bot.id =
        shownTo other x.call.tenant x.call.bot.id := congrFun hshown x.call.tenant
    rw [htold, hrooms] at hfirst hfirstOut
    refine ⟨?_, hfirstOut.trans hsecondOut.symm⟩
    show (_, _) = (_, _)
    rw [shownTo_handle, shownTo_handle, hfirst, hsecond]
    exact congrArg (·, _) hshown

/-- Two runs of chat calls, from databases that show a visitor the same rooms and their
chatbot in the same contexts, with the same calls of that visitor and any other calls in
between: the visitor's rooms end the same, and each of the visitor's calls ends the same and
spends the same. -/
theorem visitors_independent {db other : Database} (hdb : Sound db) (hother : Sound other)
    (hrooms : roomsOf db pair = roomsOf other pair)
    (hshown : ∀ tenant, shownTo db tenant pair.1 = shownTo other tenant pair.1)
    {exchanges others : List Exchange}
    (hsame : exchanges.filter (visitor repr pair).concerns =
      others.filter (visitor repr pair).concerns) :
    roomsOf (exchanges.foldl (handle repr) db) pair =
        roomsOf (others.foldl (handle repr) other) pair ∧
      (visitor repr pair).outputs (handle repr) db exchanges =
        (visitor repr pair).outputs (handle repr) other others := by
  have hview : (visitor repr pair).view db = (visitor repr pair).view other :=
    Prod.ext (funext hshown) hrooms
  obtain ⟨hlast, houts⟩ := (unwinds_visitor repr pair).noninterference hdb hother hview hsame
  exact ⟨congrArg Prod.snd hlast, houts⟩

theorem firstVisitor_independent :
    roomsOf (ConversationMemory.twoVisitors.foldl (handle noRepr) supportDb) (1, "first") =
        roomsOf ([blockingExchange "first" 1, blockingExchange "first" 5].foldl (handle noRepr)
          supportDb) (1, "first") ∧
      (roomsOf (ConversationMemory.twoVisitors.foldl (handle noRepr) supportDb) (1, "first")).map
        (fun room => room.talks.map Talk.content) = [["Hi", "Hello.", "Hi", "Hello."]] :=
  ⟨(visitors_independent noRepr (1, "first") sound_supportDb sound_supportDb rfl (fun _ => rfl)
      (by rfl)).1, by decide⟩

end Runs

end Botman.VisitorIsolation
