import Botman.Library.StopAndWait
import Botman.ChatApi
import Botman.ChatIsolation
import Botman.ConversationMemory
import Botman.PublicGate

/-!
The live preview of the studio, `ChatPreview.jsx`, over the endpoint it asks.

The page sends one message at a time.  What it shows is compared with the messages that
the database has for the chatbot and the visitor of the page.
-/

namespace Botman.ChatPreview

open Botman.Library.KeyedTable
open Botman.Library.PythonValue
open Botman.Library.StopAndWait
open Botman.Library.Transition
open Botman.DataModel
open Botman.TenantContext
open Botman.WidgetApi
open Botman.ChatService
open Botman.ChatApi
open Botman.ChatEffects
open Botman.ChatPrompt
open Botman.ChatConcurrency
open Botman.StreamAccounting

section Page

inductive Role where
  | user
  | assistant
  deriving DecidableEq

/-- A message in the list of the page. -/
structure Entry where
  role : Role
  content : String
  deriving DecidableEq

/-- The state of the component. -/
structure Page where
  messages : List Entry
  input : String
  loading : Bool

def greeting : Entry := ⟨.assistant, "Hello! How can I help you today?"⟩

/-- The page as it is mounted. -/
def newPage : Page := ⟨[greeting], "", false⟩

/-- The identifier of a session carries the time of its start. -/
def sessionIdAt (now : Nat) : String := "test-" ++ now.repr

def trimmed (text : String) : String :=
  String.ofList (WidgetStream.trim text.toList)

/-- `handleSend` up to the request: the page and the message that is sent. -/
def handleSend (page : Page) : Option (Page × String) :=
  if trimmed page.input = "" ∨ page.loading then none
  else
    let userMessage := trimmed page.input
    some (⟨page.messages ++ [⟨.user, userMessage⟩], "", true⟩, userMessage)

/-- The body of `chatTest`. -/
def chatTestBody (botId sessionId userMessage : String) : Json :=
  .obj [("bot_id", .str botId), ("message", .str userMessage), ("visitor_id", .str sessionId),
    ("stream", .bool false)]

/-- `response.data.response` where the request succeeds.  A stream is text and has no such
property. -/
def responseText : ChatResponse → Option String
  | .answer text _ => some text
  | .stream _ => some ""
  | _ => none

/-- The reply that is shown, for a request that succeeded or not. -/
def botResponse : Option String → String
  | some text => if text = "" then "I didn't get a response." else text
  | none => "Sorry, I encountered an error."

/-- `handleSend` after the request. -/
def showReply (page : Page) (result : Option String) : Page :=
  { page with messages := page.messages ++ [⟨.assistant, botResponse result⟩], loading := false }

end Page

section World

/-- The request of the page, from the click to the response. -/
inductive Request where
  | idle
  | sent (userMessage : String)
  | responded (response : ChatResponse)

/-- `adrift` holds the messages of requests that the browser gave up and the server has not
handled. -/
structure World where
  db : Database
  page : Page
  request : Request
  adrift : List String

/-- What a request of the page meets on the server. -/
structure Arrival where
  env : ChatEnv
  http : HttpRequest
  headers : OriginHeaders

/-- Events of the page, of its request under way, of requests whose page is gone, and
of others. -/
inductive Event where
  | type (text : String)
  | send
  | handle (arrival : Arrival)
  | receive
  | fail
  | handleLate (userMessage : String) (arrival : Arrival)
  | other (exchange : AnswerRecords.Exchange)

variable (server : ChatServer) (botId sessionId : String)

/-- The server handles the request with a message of the page. -/
def handlePreview (db : Database) (userMessage : String) (arrival : Arrival) :
    Database × ChatResponse :=
  handleChat server arrival.env db
    { target := .preview, http := arrival.http, headers := arrival.headers
      data := chatTestBody botId sessionId userMessage }

def next (w : World) : Event → Option World
  | .type text => some { w with page := { w.page with input := text } }
  | .send =>
      (handleSend w.page).map fun out => { w with page := out.1, request := .sent out.2 }
  | .handle arrival =>
      match w.request with
      | .sent userMessage =>
          let out := handlePreview server botId sessionId w.db userMessage arrival
          some { w with db := out.1, request := .responded out.2 }
      | _ => none
  | .receive =>
      match w.request with
      | .responded response =>
          some { w with page := showReply w.page (responseText response), request := .idle }
      | _ => none
  | .fail =>
      match w.request with
      | .idle => none
      | .sent userMessage =>
          some { w with page := showReply w.page none, request := .idle
                        adrift := userMessage :: w.adrift }
      | .responded _ => some { w with page := showReply w.page none, request := .idle }
  | .handleLate userMessage arrival =>
      if userMessage ∈ w.adrift then
        some { w with db := (handlePreview server botId sessionId w.db userMessage arrival).1
                      adrift := w.adrift.erase userMessage }
      else none
  | .other exchange =>
      some { w with db := AnswerRecords.handle server.repr w.db exchange }

/-- Other calls are for another chatbot or another visitor. -/
def elsewhere (pair : Nat × String) (_ : World) : Event → Prop
  | .other exchange => ChatIsolation.pairOf exchange.call ≠ pair
  | _ => True

end World

section Stored

variable {repr : Json → String}

/-- The messages of a list that lie in a conversation of the chatbot and the visitor. -/
def excerpt (db : Database) (pair : Nat × String) (messages : List Message) :
    List (Sender × String) :=
  (messages.filter fun m => decide ((m.conversation, pair) ∈ places db)).map fun m =>
    (m.sender, m.content)

/-- What the database has of a chatbot and a visitor, in the order of insertion. -/
def stored (db : Database) (pair : Nat × String) : List (Sender × String) :=
  excerpt db pair db.messages.rows

theorem excerpt_append (db : Database) (pair : Nat × String) (messages new : List Message) :
    excerpt db pair (messages ++ new) = excerpt db pair messages ++ excerpt db pair new := by
  rw [excerpt, List.filter_append, List.map_append, excerpt, excerpt]

theorem excerpt_of_forall_mem {db : Database} {pair : Nat × String} {messages : List Message}
    (h : ∀ m ∈ messages, (m.conversation, pair) ∈ places db) :
    excerpt db pair messages = messages.map fun m => (m.sender, m.content) := by
  rw [excerpt, List.filter_eq_self.mpr fun m hm => decide_eq_true (h m hm)]

theorem excerpt_of_forall_not_mem {db : Database} {pair : Nat × String}
    {messages : List Message} (h : ∀ m ∈ messages, (m.conversation, pair) ∉ places db) :
    excerpt db pair messages = [] := by
  rw [excerpt, List.filter_eq_nil_iff.mpr fun m hm => by simpa using h m hm, List.map_nil]

theorem stored_of_grows {db after : Database} (hsound : ConversationMemory.Sound db)
    (hgrows : ChatIsolation.Grows db after) {new : List Message}
    (hrows : after.messages.rows = db.messages.rows ++ new) (pair : Nat × String) :
    stored after pair = stored db pair ++ excerpt after pair new := by
  have hkept : ∀ m ∈ db.messages.rows,
      decide ((m.conversation, pair) ∈ places after) =
        decide ((m.conversation, pair) ∈ places db) := by
    intro m hm
    obtain ⟨c, hc, hid⟩ := hsound.referenced m hm
    have hplace : (m.conversation, (placeOf c).2) ∈ places db := by
      rw [← hid]
      exact List.mem_map_of_mem hc
    refine decide_eq_decide.mpr ⟨fun hafter => ?_, fun hbefore => hgrows.places.subset hbefore⟩
    rw [ChatIsolation.pair_eq_of_places hafter (hgrows.places.subset hplace)]
    exact hplace
  have hsame : excerpt after pair db.messages.rows = excerpt db pair db.messages.rows := by
    rw [excerpt, List.filter_congr hkept, excerpt]
  rw [stored, hrows, excerpt_append, hsame, stored]

theorem grows_processChatMessage (repr : Json → String) (env : ChatEnv) (db : Database)
    (call : ChatCall) :
    ChatIsolation.Grows db (processChatMessage repr env db call).1 ∧
      ∀ m ∈ (processChatMessage repr env db call).1.messages.rows,
        m ∈ db.messages.rows ∨
          ChatIsolation.Belongs repr (processChatMessage repr env db call).1 call m := by
  have hinv := invariant_of_reaches
    (fun s : Database × Progress => ChatIsolation.Knows repr env call s.1 s.2 ∧
      ChatIsolation.Grows db s.1 ∧ ∀ m ∈ s.1.messages.rows,
        m ∈ db.messages.rows ∨ ChatIsolation.Belongs repr s.1 call m) ?_ ?_
    (@solo_processChatMessage repr env call db)
  · exact hinv.2
  · rintro ⟨before, progress⟩ _ ⟨after, later⟩ ⟨hknows, hgrows, hnew⟩ - hstep
    obtain ⟨hwrote, hlater⟩ := ChatIsolation.knows_advance hknows hstep
    refine ⟨hlater, hgrows.trans hwrote.grows, ?_⟩
    intro m hm
    rcases hwrote.belongs hm with hold | hbelongs
    · rcases hnew m hold with hbefore | hbelongs
      · exact Or.inl hbefore
      · exact Or.inr (hbelongs.of_grows hwrote.grows)
    · exact Or.inr hbelongs
  · exact ⟨trivial, ChatIsolation.Grows.refl db, fun m hm => Or.inl hm⟩

theorem stored_handle_other {db : Database} (hsound : ConversationMemory.Sound db)
    (exchange : AnswerRecords.Exchange) {pair : Nat × String}
    (hother : ChatIsolation.pairOf exchange.call ≠ pair) :
    stored (AnswerRecords.handle repr db exchange) pair = stored db pair := by
  obtain ⟨hgrows, hbelongs⟩ := grows_processChatMessage repr exchange.env db exchange.call
  obtain ⟨new, hrows⟩ := hgrows.messages
  unfold AnswerRecords.handle
  rw [stored_of_grows hsound hgrows hrows.symm, excerpt_of_forall_not_mem, List.append_nil]
  intro m hm hplace
  have hfresh : m ∉ db.messages.rows := by
    have hnodup := List.Nodup.of_map _
      (processChatMessage repr exchange.env db exchange.call).1.messages.nodup
    rw [← hrows] at hnodup
    exact fun hold => List.disjoint_of_nodup_append hnodup hold hm
  have hmem : m ∈ (processChatMessage repr exchange.env db exchange.call).1.messages.rows := by
    rw [← hrows]
    exact List.mem_append_right _ hm
  rcases hbelongs m hmem with hold | hnew
  · exact hfresh hold
  · exact hother (ChatIsolation.pair_eq_of_places hnew.place hplace)

end Stored

section Serving

variable {repr : Json → String} {env : ChatEnv} {db : Database} {call : ChatCall}

/-- The rows of a question that the server took, with its answer. -/
def rowsOf (e : String × Option String) : List (Sender × String) :=
  (.user, strip e.1) :: e.2.toList.map fun text => (.bot, text)

theorem places_foldl_applyWrite (writes : List ReplyWrite) (db : Database) :
    places (writes.foldl applyWrite db) = places db := by
  induction writes generalizing db with
  | nil => rfl
  | cons write rest ih => rw [List.foldl_cons, ih, places, applyWrite_conversations, places]

theorem respondTo_of_not_stream (hstream : call.stream = false) (q : Question) :
    (∃ e, respondTo repr env call q = failWith e) ∨
      ∃ row usage, respondTo repr env call q =
          ⟨.message row :: (Option.map ReplyWrite.usage usage).toList,
            .answered row.content q.conversation⟩ ∧
        row.conversation = q.conversation.id ∧ row.sender = .bot := by
  cases hprompt : promptFor repr env call q with
  | none => exact Or.inl (respondTo_of_no_prompt repr hprompt)
  | some stage =>
      obtain ⟨hreply, rfl⟩ := respondTo_of_prompt repr hprompt
      rw [hreply, replyTo, if_neg (by simp [hstream]), blockingReply]
      simp only [hstream]
      split
      · exact Or.inl ⟨_, rfl⟩
      · split
        · rename_i text writes htext hwrites
          unfold replyWrites at hwrites
          split at hwrites
          · rename_i content total hcontent htotal
            cases hwrites
            cases htext.symm.trans hcontent
            exact Or.inr ⟨_, _, rfl, rfl, rfl⟩
          · cases hwrites
        · exact Or.inl ⟨_, rfl⟩

theorem stored_after_question (hsound : ConversationMemory.Sound db) {q : Question}
    (hquestion : question? repr env db call = some q) {writes : List ReplyWrite}
    (hgrows : ChatIsolation.Grows db (writes.foldl applyWrite (q.stored env)))
    {new : List Message}
    (hrows : (writes.foldl applyWrite (q.stored env)).messages.rows = db.messages.rows ++ new)
    (hin : ∀ m ∈ new, m.conversation = q.conversation.id) :
    stored (writes.foldl applyWrite (q.stored env)) (ChatIsolation.pairOf call) =
      stored db (ChatIsolation.pairOf call) ++ new.map fun m => (m.sender, m.content) := by
  obtain ⟨-, -, hmem, hfor⟩ := ConversationMemory.openedIn_of_question repr hquestion
  have hplace : (q.conversation.id, ChatIsolation.pairOf call) ∈
      places (writes.foldl applyWrite (q.stored env)) := by
    rw [places_foldl_applyWrite]
    exact ChatIsolation.Placed.place ⟨hfor, List.mem_map_of_mem hmem⟩
  rw [stored_of_grows hsound hgrows hrows, excerpt_of_forall_mem]
  intro m hm
  rw [hin m hm]
  exact hplace

theorem stored_processChatMessage (hsound : ConversationMemory.Sound db)
    (hstream : call.stream = false) {userMessage : String}
    (hmessage : call.message = .str (strip userMessage)) :
    ∃ taken, stored (processChatMessage repr env db call).1 (ChatIsolation.pairOf call) =
      stored db (ChatIsolation.pairOf call) ++
        (entry userMessage taken
          (responseText (chatResponse (processChatMessage repr env db call).2))).flatMap
            rowsOf := by
  have hgrows := (grows_processChatMessage repr env db call).1
  cases hquestion : question? repr env db call with
  | none =>
      obtain ⟨e, hraised, hmessages⟩ := processChatMessage_of_no_question repr hquestion
      refine ⟨false, ?_⟩
      have hrows : (processChatMessage repr env db call).1.messages.rows =
          db.messages.rows ++ [] := by rw [hmessages, List.append_nil]
      rw [stored_of_grows hsound hgrows hrows, hraised]
      rfl
  | some q =>
      have hcontent : q.content = strip userMessage := by
        have htext := (stages_of_question repr hquestion).2.2
        rw [hmessage] at htext
        exact (Option.some.inj htext).symm
      have hasked := messages_of_question repr hquestion
      rw [processChatMessage_of_question repr hquestion] at hgrows ⊢
      refine ⟨true, ?_⟩
      rcases respondTo_of_not_stream hstream q with ⟨e, hreply⟩ | ⟨row, usage, hreply, hrow, hbot⟩
      · rw [hreply] at hgrows ⊢
        refine (stored_after_question hsound hquestion hgrows hasked ?_).trans ?_
        · intro m hm
          rw [List.mem_singleton.mp hm]
          rfl
        · show _ = stored db _ ++ [(Sender.user, strip userMessage)]
          rw [← hcontent]
          rfl
      · rw [hreply] at hgrows ⊢
        have hrows := (foldl_applyWrite_reply (q.stored env) row usage).1
        rw [hasked, List.append_assoc] at hrows
        refine (stored_after_question hsound hquestion hgrows hrows ?_).trans ?_
        · intro m hm
          rcases List.mem_pair.mp hm with rfl | rfl
          · rfl
          · exact hrow
        · show _ = stored db _ ++ [(Sender.user, strip userMessage), (Sender.bot, row.content)]
          rw [← hcontent, ← hbot]
          rfl

end Serving

section Handling

variable {server : ChatServer} {botId sessionId : String} {bot : Nat} {db : Database}

theorem serializer_chatTestBody (botId : String)
    (hsession : charField server.repr (some (.str sessionId)) = .ok sessionId)
    (userMessage : String) :
    chatRequestSerializer server.repr (chatTestBody botId sessionId userMessage) =
      match charField server.repr (some (.str userMessage)) with
      | .ok message => .ok ⟨message, sessionId, false⟩
      | .error message => .error [("message", message)] := by
  have hmessage : ∀ fields : Dict,
      (("bot_id", .str botId) :: ("message", .str userMessage) :: fields).lookup "message" =
        some (.str userMessage) := fun _ => rfl
  have hvisitor : ∀ fields : Dict,
      (("bot_id", .str botId) :: ("message", .str userMessage) ::
        ("visitor_id", .str sessionId) :: fields).lookup "visitor_id" =
        some (.str sessionId) := fun _ => rfl
  have hstream : [("bot_id", .str botId), ("message", .str userMessage),
      ("visitor_id", .str sessionId), ("stream", .bool false)].lookup "stream" =
        some (Json.bool false) := rfl
  simp only [chatRequestSerializer, chatTestBody, hmessage, hvisitor, hstream, hsession]
  cases charField server.repr (some (.str userMessage)) <;> rfl

theorem strip_of_charField {text field : String}
    (h : charField server.repr (some (.str text)) = .ok field) : field = strip text := by
  unfold charField at h
  simp only at h
  split at h
  · cases h
  · split at h
    · cases h
    · exact (Except.ok.inj h).symm

theorem handlePreview_cases (db : Database) (hbot : intOf (.str botId) = some (bot : Int))
    (hsession : charField server.repr (some (.str sessionId)) = .ok sessionId)
    (userMessage : String) (arrival : Arrival) :
    (∃ response, handlePreview server botId sessionId db userMessage arrival = (db, response) ∧
        responseText response = none) ∨
      ∃ call : ChatCall, ChatIsolation.pairOf call = (bot, sessionId) ∧ call.stream = false ∧
        call.message = .str (strip userMessage) ∧
        handlePreview server botId sessionId db userMessage arrival =
          answerCall server arrival.env db call := by
  have hserializer := serializer_chatTestBody botId hsession userMessage
  have hget : get [("bot_id", .str botId), ("message", .str userMessage),
      ("visitor_id", .str sessionId), ("stream", .bool false)] "bot_id" = .str botId := rfl
  unfold chatTestBody at hserializer
  simp only [handlePreview, handleChat, previewAction, chatTestBody, hget, hserializer]
  split
  · exact Or.inl ⟨_, rfl, rfl⟩
  · cases hmessage : charField server.repr (some (.str userMessage)) with
    | error message => exact Or.inl ⟨_, rfl, rfl⟩
    | ok message =>
        simp only [hbot]
        unfold withChatbot
        split
        · exact Or.inl ⟨_, rfl, rfl⟩
        · exact Or.inl ⟨_, rfl, rfl⟩
        · rename_i found hfound
          obtain ⟨rows, -, hrows⟩ := Option.map_eq_some_iff.mp hfound
          have hid : (found.id : Int) = bot := by
            have hmem : found ∈ rows.filter _ := hrows ▸ List.mem_cons_self
            exact of_decide_eq_true (List.mem_filter.mp hmem).2
          refine Or.inr ⟨_, ?_, rfl, ?_, rfl⟩
          · exact Prod.ext (Int.ofNat.inj hid) rfl
          · exact congrArg Json.str (strip_of_charField hmessage)
        · exact Or.inl ⟨_, rfl, rfl⟩

theorem stored_handlePreview (hbot : intOf (.str botId) = some (bot : Int))
    (hsession : charField server.repr (some (.str sessionId)) = .ok sessionId)
    (hsound : ConversationMemory.Sound db) (userMessage : String) (arrival : Arrival) :
    let out := handlePreview server botId sessionId db userMessage arrival
    ConversationMemory.Sound out.1 ∧
      ∃ taken, stored out.1 (bot, sessionId) = stored db (bot, sessionId) ++
        (entry userMessage taken (responseText out.2)).flatMap rowsOf := by
  rcases handlePreview_cases db hbot hsession userMessage arrival with
    ⟨response, hout, hrefused⟩ | ⟨call, hpair, hstream, hmessage, hout⟩
  · rw [hout]
    refine ⟨hsound, false, ?_⟩
    rw [hrefused]
    exact (List.append_nil _).symm
  · rw [hout, ← hpair]
    refine ⟨hsound.of_extends ?_, stored_processChatMessage hsound hstream hmessage⟩
    exact ConversationMemory.extends_handle server.repr db ⟨arrival.env, call⟩

end Handling

section Sessions

/-- An exchange as the page shows it. -/
def shown (e : String × Option String) : List Entry :=
  [⟨.user, e.1⟩, ⟨.assistant, botResponse e.2⟩]

/-- The message of the page that is not answered yet. -/
def asked : Flight String String → List Entry
  | .idle => []
  | .sent q => [⟨.user, q⟩]
  | .served q _ => [⟨.user, q⟩]

/-- The request of the page in terms of the session. -/
def Matches : Request → Flight String String → Prop
  | .idle, .idle => True
  | .sent userMessage, .sent q => userMessage = q
  | .responded response, .served _ result => responseText response = result
  | _, _ => False

theorem Matches.idle_iff {request : Request} {flight : Flight String String}
    (h : Matches request flight) : request = .idle ↔ flight = .idle := by
  cases request <;> cases flight <;> simp_all [Matches]

theorem matches_sent_iff {userMessage : String} {flight : Flight String String} :
    Matches (.sent userMessage) flight ↔ flight = .sent userMessage := by
  cases flight <;> simp [Matches, eq_comm]

theorem matches_responded_iff {response : ChatResponse} {flight : Flight String String} :
    Matches (.responded response) flight ↔ ∃ q, flight = .served q (responseText response) := by
  cases flight <;> simp [Matches, eq_comm]

/-- The page and the database show the session. -/
structure Tracks (pair : Nat × String) (w : World) (s : Session String String) : Prop where
  sound : ConversationMemory.Sound w.db
  messages : w.page.messages = greeting :: s.past.flatMap shown ++ asked s.flight
  loading : w.page.loading = true ↔ w.request ≠ .idle
  request : Matches w.request s.flight
  adrift : w.adrift = s.adrift
  rows : stored w.db pair = s.log.flatMap rowsOf

theorem Tracks.loading_eq_false_iff {pair : Nat × String} {w : World}
    {s : Session String String} (h : Tracks pair w s) :
    w.page.loading = false ↔ s.flight = .idle := by
  rw [← h.request.idle_iff, ← Bool.not_eq_true, h.loading, not_not]

variable {server : ChatServer} {botId sessionId : String} {bot : Nat}

theorem messages_showReply {page : Page} {past : List (String × Option String)} {q : String}
    (h : page.messages = greeting :: past.flatMap shown ++ [⟨.user, q⟩]) (reply : Option String) :
    (showReply page reply).messages =
      greeting :: (past ++ [(q, reply)]).flatMap shown ++ asked .idle := by
  simp [showReply, h, asked, shown]

theorem tracks_next (hbot : intOf (.str botId) = some (bot : Int))
    (hsession : charField server.repr (some (.str sessionId)) = .ok sessionId)
    {w w' : World} {s : Session String String} {event : Event}
    (htracks : Tracks (bot, sessionId) w s) (helsewhere : elsewhere (bot, sessionId) w event)
    (h : next server botId sessionId w event = some w') :
    ∃ t, Reaches Library.StopAndWait.next anyStep s t ∧ Tracks (bot, sessionId) w' t := by
  obtain ⟨hsound, hmessages, hloading, hrequest, hadrift, hrows⟩ := htracks
  obtain ⟨past, flight, adrift, log⟩ := s
  cases event with
  | type text =>
      cases h
      exact ⟨_, Relation.ReflTransGen.refl, hsound, hmessages, hloading, hrequest, hadrift, hrows⟩
  | send =>
      obtain ⟨⟨page, userMessage⟩, hsend, hout⟩ := Option.map_eq_some_iff.mp h
      cases hout
      unfold handleSend at hsend
      split at hsend
      · cases hsend
      · rename_i hfree
        cases hsend
        have hidle : w.request = .idle := by
          by_contra hbusy
          exact hfree (Or.inr (hloading.mpr hbusy))
        obtain rfl : flight = .idle := hrequest.idle_iff.mp hidle
        refine ⟨_, .single ⟨.ask _, trivial, rfl⟩, hsound, ?_, ?_, rfl, hadrift, hrows⟩
        · simp [hmessages, asked]
        · simp
  | handle arrival =>
      simp only [next] at h
      split at h
      · rename_i userMessage hsent
        cases h
        rw [hsent] at hrequest hloading
        obtain rfl := matches_sent_iff.mp hrequest
        obtain ⟨hafter, taken, hstored⟩ :=
          stored_handlePreview hbot hsession hsound userMessage arrival
        refine ⟨_, .single ⟨.serve taken _, trivial, rfl⟩, hafter, hmessages, ?_, rfl, hadrift, ?_⟩
        · simpa using hloading
        · rw [hstored, hrows, List.flatMap_append]
      · cases h
  | receive =>
      simp only [next] at h
      split at h
      · rename_i response hresponded
        cases h
        rw [hresponded] at hrequest
        obtain ⟨q, rfl⟩ := matches_responded_iff.mp hrequest
        refine ⟨_, .single ⟨.receive, trivial, rfl⟩, hsound, messages_showReply hmessages _, ?_,
          trivial, hadrift, hrows⟩
        simp [showReply]
      · cases h
  | fail =>
      -- the request may be lost before the server sees it, or the response on its way back
      simp only [next] at h
      split at h
      · cases h
      · rename_i userMessage hsent
        cases h
        rw [hsent] at hrequest
        obtain rfl := matches_sent_iff.mp hrequest
        refine ⟨_, .single ⟨.giveUp, trivial, rfl⟩, hsound, messages_showReply hmessages _, ?_,
          trivial, congrArg (userMessage :: ·) hadrift, hrows⟩
        simp [showReply]
      · rename_i response hresponded
        cases h
        rw [hresponded] at hrequest
        obtain ⟨q, rfl⟩ := matches_responded_iff.mp hrequest
        refine ⟨_, .single ⟨.giveUp, trivial, rfl⟩, hsound, messages_showReply hmessages _, ?_,
          trivial, hadrift, hrows⟩
        simp [showReply]
  | handleLate userMessage arrival =>
      simp only [next] at h
      split at h
      · rename_i hmem
        cases h
        cases hadrift
        obtain ⟨hafter, taken, hstored⟩ :=
          stored_handlePreview hbot hsession hsound userMessage arrival
        let result := responseText (handlePreview server botId sessionId w.db userMessage arrival).2
        refine ⟨_, .single ⟨.arrive userMessage taken result, trivial, if_pos hmem⟩, hafter,
          hmessages, hloading, hrequest, rfl, ?_⟩
        rw [hstored, hrows, List.flatMap_append]
      · cases h
  | other exchange =>
      cases h
      refine ⟨_, Relation.ReflTransGen.refl, ?_, hmessages, hloading, hrequest, hadrift, ?_⟩
      · exact hsound.of_extends (ConversationMemory.extends_handle _ _ _)
      · exact (stored_handle_other hsound exchange helsewhere).trans hrows

/-- A run of the page from its first message on is a run of the session. -/
theorem session_of_reaches (hbot : intOf (.str botId) = some (bot : Int))
    (hsession : charField server.repr (some (.str sessionId)) = .ok sessionId)
    {db : Database} (hsound : ConversationMemory.Sound db)
    (hnew : stored db (bot, sessionId) = []) {w : World}
    (hrun : Reaches (next server botId sessionId) (elsewhere (bot, sessionId))
      ⟨db, newPage, .idle, []⟩ w) :
    ∃ s, Reaches Library.StopAndWait.next anyStep ⟨[], .idle, [], []⟩ s ∧
      Tracks (bot, sessionId) w s := by
  refine invariant_of_reaches
    (fun w => ∃ s, Reaches Library.StopAndWait.next anyStep ⟨[], .idle, [], []⟩ s ∧
      Tracks (bot, sessionId) w s) ?_ ?_ hrun
  · rintro w event w' ⟨s, hreaches, htracks⟩ helsewhere hnext
    obtain ⟨t, hstep, htracks'⟩ := tracks_next hbot hsession htracks helsewhere hnext
    exact ⟨t, hreaches.trans hstep, htracks'⟩
  · refine ⟨_, Relation.ReflTransGen.refl, hsound, rfl, ?_, trivial, rfl, hnew⟩
    simp [newPage]

theorem charField_sessionIdAt (repr : Json → String) (now : Nat) :
    charField repr (some (.str (sessionIdAt now))) = .ok (sessionIdAt now) := by
  have hchars : ∀ c ∈ (sessionIdAt now).toList, isSpace c = false ∧ c ≠ Char.ofNat 0 := by
    intro c hc
    rw [sessionIdAt, String.toList_append, List.mem_append] at hc
    rcases hc with hc | hc
    · have hall : ("test-".toList.all fun c => !isSpace c && c != Char.ofNat 0) = true := by
        decide
      simpa using List.all_eq_true.mp hall c hc
    · rw [Nat.toList_repr] at hc
      have hdigit := Nat.isDigit_of_mem_toDigits (by decide) (by decide) hc
      refine ⟨isSpace_of_isDigit hdigit, ?_⟩
      rintro rfl
      revert hdigit
      decide
  have hnull : (sessionIdAt now).toList.contains (Char.ofNat 0) = false := by
    rw [← Bool.not_eq_true, List.contains_iff_mem]
    exact fun hmem => (hchars _ hmem).2 rfl
  have hempty : sessionIdAt now ≠ "" := by
    intro h
    have htext := congrArg String.toList h
    rw [sessionIdAt, String.toList_append] at htext
    cases htext
  simp only [charField, strip_eq_self fun c hc => (hchars c hc).1, hnull, if_neg hempty,
    Bool.false_eq_true, if_false]

/-- The page shows its greeting and then, for every message that was sent, the message and
its reply, but for the last one while it is loading.  The exchanges that were answered
stand, in their order, in the conversation that the database has of the page's visitor; if
all were, and none is under way, the conversation is what the page shows. -/
theorem preview_shows_stored (now : Nat) (hbot : intOf (.str botId) = some (bot : Int))
    {db : Database} (hsound : ConversationMemory.Sound db)
    (hnew : stored db (bot, sessionIdAt now) = []) {w : World}
    (hrun : Reaches (next server botId (sessionIdAt now)) (elsewhere (bot, sessionIdAt now))
      ⟨db, newPage, .idle, []⟩ w) :
    ∃ (exchanges : List (String × Option String)) (last : List Entry),
      w.page.messages = greeting :: exchanges.flatMap shown ++ last ∧
      (w.page.loading = true → ∃ q, last = [⟨.user, q⟩]) ∧
      (w.page.loading = false → last = []) ∧
      ((exchanges.filter isAnswered).flatMap rowsOf).Sublist (stored w.db (bot, sessionIdAt now)) ∧
      (w.page.loading = false → exchanges.all isAnswered = true →
        stored w.db (bot, sessionIdAt now) = exchanges.flatMap rowsOf) := by
  obtain ⟨s, hreaches, htracks⟩ :=
    session_of_reaches hbot (charField_sessionIdAt server.repr now) hsound hnew hrun
  obtain ⟨hanswers, hsettled⟩ := inv_of_reaches hreaches
  refine ⟨s.past, asked s.flight, htracks.messages, ?_, ?_, ?_, ?_⟩
  · intro hloading
    have hbusy : s.flight ≠ .idle := by
      rw [Ne, ← htracks.loading_eq_false_iff, hloading]
      simp
    cases hflight : s.flight with
    | idle => exact absurd hflight hbusy
    | sent q => exact ⟨q, rfl⟩
    | served q result => exact ⟨q, rfl⟩
  · intro hloading
    rw [htracks.loading_eq_false_iff.mp hloading]
    rfl
  · rw [htracks.rows]
    exact ((List.sublist_append_left _ _).trans hanswers).flatMap rowsOf
  · intro hloading hall
    obtain ⟨-, taken, hlog⟩ := hsettled hall
    rw [htracks.rows, hlog, htracks.loading_eq_false_iff.mp hloading, entry_idle, List.append_nil]

end Sessions

section OnePage

instance (pair : Nat × String) (w : World) (event : Event) :
    Decidable (elsewhere pair w event) := by
  cases event <;> unfold elsewhere <;> infer_instance

def studioRequest : Arrival where
  env := plainEnv
  http := ⟨none, none, none⟩
  headers := ⟨none, none⟩

/-- One message is answered, with an exchange of another visitor in between, and the next
one fails. -/
def twoMessages : List Event :=
  [.type " Hi ", .send, .other ⟨plainEnv, plainCall "visitor" false⟩, .handle studioRequest,
    .receive, .type "Still there?", .send, .fail]

theorem twoMessages_shown :
    ∃ w, Reaches (next PublicGate.plainServer "1" (sessionIdAt 7))
        (elsewhere (1, sessionIdAt 7)) ⟨supportDb, newPage, .idle, []⟩ w ∧
      w.page.messages = [greeting, ⟨.user, "Hi"⟩, ⟨.assistant, "Hello."⟩,
        ⟨.user, "Still there?"⟩, ⟨.assistant, "Sorry, I encountered an error."⟩] ∧
      ∃ (exchanges : List (String × Option String)) (last : List Entry),
        w.page.messages = greeting :: exchanges.flatMap shown ++ last ∧
        ((exchanges.filter isAnswered).flatMap rowsOf).Sublist (stored w.db (1, sessionIdAt 7)) := by
  have hreached : ∃ w, Reaches (next PublicGate.plainServer "1" (sessionIdAt 7))
      (elsewhere (1, sessionIdAt 7)) ⟨supportDb, newPage, .idle, []⟩ w ∧
      w.page.messages = [greeting, ⟨.user, "Hi"⟩, ⟨.assistant, "Hello."⟩,
        ⟨.user, "Still there?"⟩, ⟨.assistant, "Sorry, I encountered an error."⟩] :=
    exists_reaches_of_replay twoMessages (by decide)
  obtain ⟨w, hrun, hmessages⟩ := hreached
  obtain ⟨exchanges, last, hshown, -, -, hstored, -⟩ :=
    preview_shows_stored 7 (by decide) ConversationMemory.sound_supportDb rfl hrun
  exact ⟨w, hrun, hmessages, exchanges, last, hshown, hstored⟩

end OnePage

end Botman.ChatPreview
