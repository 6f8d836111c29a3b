import Botman.BufferedWidget
import Botman.ChatConcurrency

/-!
Concurrent calls of `process_chat_message` do not mix.  In every interleaving of
their statements the messages only grow, every message that is stored lies in a
conversation of the chatbot and the visitor of the call that stored it, and a call
whose reply was received has its question and its answer there, in this order.
-/

namespace Botman.ChatIsolation

open Botman.Library.KeyedTable
open Botman.Library.PythonValue
open Botman.Library.Transition
open Botman.DataModel
open Botman.TenantContext
open Botman.ChatbotSettings
open Botman.ChatService
open Botman.ChatEffects
open Botman.ChatConcurrency
open Botman.WidgetStream
open Botman.BufferedWidget

/-- What no statement of a call takes back. -/
structure Grows (db db' : Database) : Prop where
  places : places db <+: places db'
  messages : db.messages.rows <+: db'.messages.rows

theorem Grows.refl (db : Database) : Grows db db :=
  ⟨List.prefix_refl _, List.prefix_refl _⟩

theorem Grows.trans {db db' db'' : Database} (h : Grows db db') (h' : Grows db' db'') :
    Grows db db'' :=
  ⟨h.places.trans h'.places, h.messages.trans h'.messages⟩

variable {repr : Json → String}

/-- The chatbot and the visitor of a call. -/
def pairOf (call : ChatCall) : Nat × String :=
  (call.bot.id, call.visitorId)

/-- The message may come from the call: it lies in a conversation of its chatbot with
its visitor and, where the visitor wrote it, is the text the call was given. -/
structure Belongs (repr : Json → String) (db : Database) (call : ChatCall) (m : Message) :
    Prop where
  place : (m.conversation, pairOf call) ∈ places db
  text : m.sender = .user → textColumn repr call.message = some m.content

theorem Belongs.of_grows {db db' : Database} (hgrows : Grows db db') {call : ChatCall}
    {m : Message} (h : Belongs repr db call m) : Belongs repr db' call m :=
  ⟨hgrows.places.subset h.place, h.text⟩

/-- A stored conversation of the call, up to the columns that a call changes. -/
structure Placed (db : Database) (call : ChatCall) (c : Conversation) : Prop where
  isFor : call.isFor c = true
  mem : placeOf c ∈ places db

theorem Placed.of_grows {db db' : Database} (hgrows : Grows db db') {call : ChatCall}
    {c : Conversation} (h : Placed db call c) : Placed db' call c :=
  ⟨h.isFor, hgrows.places.subset h.mem⟩

theorem Placed.place {db : Database} {call : ChatCall} {c : Conversation}
    (h : Placed db call c) : (c.id, pairOf call) ∈ places db := by
  obtain ⟨hbot, hvisitor⟩ := ChatCall.isFor_iff.mp h.isFor
  rw [pairOf, ← hbot, ← hvisitor]
  exact h.mem

/-- The question of a call is stored under a key. -/
structure Asked (repr : Json → String) (db : Database) (call : ChatCall) (c : Conversation)
    (q : Message) : Prop where
  mem : q ∈ db.messages.rows
  conversation : q.conversation = c.id
  sender : q.sender = .user
  text : textColumn repr call.message = some q.content

theorem Asked.of_grows {db db' : Database} (hgrows : Grows db db') {call : ChatCall}
    {c : Conversation} {q : Message} (h : Asked repr db call c q) : Asked repr db' call c q :=
  ⟨hgrows.messages.subset h.mem, h.conversation, h.sender, h.text⟩

/-- An answer is stored after the question. -/
structure Answered (db : Database) (c : Conversation) (q : Message)
    (text : List CodePoint) (a : Message) : Prop where
  mem : a ∈ db.messages.rows
  conversation : a.conversation = c.id
  sender : a.sender = .bot
  content : codePoints a.content = text
  later : q.id < a.id

theorem Answered.of_grows {db db' : Database} (hgrows : Grows db db') {c : Conversation}
    {q a : Message} {text : List CodePoint} (h : Answered db c q text a) : Answered db' c q text a :=
  ⟨hgrows.messages.subset h.mem, h.conversation, h.sender, h.content, h.later⟩

/-- The call has its question and its answer in a conversation of its own. -/
def Recorded (repr : Json → String) (db : Database) (call : ChatCall)
    (text : List CodePoint) (c : Conversation) : Prop :=
  Placed db call c ∧ ∃ q a, Asked repr db call c q ∧ Answered db c q text a

theorem Recorded.of_grows {db db' : Database} (hgrows : Grows db db') {call : ChatCall}
    {text : List CodePoint} {c : Conversation} (h : Recorded repr db call text c) :
    Recorded repr db' call text c := by
  obtain ⟨hplaced, q, a, hasked, hanswered⟩ := h
  exact ⟨hplaced.of_grows hgrows, q, a, hasked.of_grows hgrows, hanswered.of_grows hgrows⟩

/-- The text of a reply that the client has received to its end. -/
def received (env : ChatEnv) : ChatResult → Option (List CodePoint)
  | .raised _ => none
  | .answered text _ => some (codePoints text)
  | .streaming events =>
      if env.delivered = none then some (events.flatMap storedText) else none

/-- The rows that are still to be written are answers in the conversation, and the text
that the client will have received is among them or stored. -/
structure Replies (env : ChatEnv) (db : Database) (c : Conversation) (q : Message)
    (writes : List ReplyWrite) (result : ChatResult) : Prop where
  rows : ∀ row, .message row ∈ writes → row.conversation = c.id ∧ row.sender = .bot
  named : ∀ text d, result = .answered text d → d = c
  answer : ∀ text, received env result = some text →
    (∃ row, .message row ∈ writes ∧ codePoints row.content = text) ∨
      ∃ a, Answered db c q text a

theorem Replies.of_grows {env : ChatEnv} {db db' : Database} (hgrows : Grows db db')
    {c : Conversation} {q : Message} {writes : List ReplyWrite} {result : ChatResult}
    (h : Replies env db c q writes result) : Replies env db' c q writes result := by
  refine ⟨h.rows, h.named, fun text hreceived => ?_⟩
  rcases h.answer text hreceived with hrow | ⟨a, ha⟩
  · exact Or.inl hrow
  · exact Or.inr ⟨a, ha.of_grows hgrows⟩

/-- The reply of a finished call is recorded, in the conversation that it names. -/
def Kept (repr : Json → String) (env : ChatEnv) (call : ChatCall) (db : Database)
    (result : ChatResult) : Prop :=
  ∀ text, received env result = some text → ∃ c, Recorded repr db call text c ∧
    ∀ answer d, result = .answered answer d → d = c

theorem kept_raised (repr : Json → String) (env : ChatEnv) (call : ChatCall) (db : Database)
    (e : ChatError) : Kept repr env call db (.raised e) := by
  intro text hreceived
  cases hreceived

/-- What a call knows of the database at every stage. -/
def Knows (repr : Json → String) (env : ChatEnv) (call : ChatCall) (db : Database) :
    Progress → Prop
  | .conversationFound _ c => Placed db call c
  | .conversationMarked _ c => Placed db call c
  | .opened c => Placed db call c
  | .stored c id => Placed db call c ∧ ∃ q, q.id = id ∧ Asked repr db call c q
  | .writing writes result =>
      ∃ c q, Placed db call c ∧ Asked repr db call c q ∧ Replies env db c q writes result
  | .finished result => Kept repr env call db result
  | _ => True

theorem Knows.of_grows {env : ChatEnv} {call : ChatCall} {db db' : Database}
    (hgrows : Grows db db') {progress : Progress} (h : Knows repr env call db progress) :
    Knows repr env call db' progress := by
  cases progress with
  | waiting | visitorMissing | visitorTaken => trivial
  | visitorKnown visitor | conversationMissing visitor => trivial
  | conversationFound visitor c => exact Placed.of_grows hgrows h
  | conversationMarked visitor c => exact Placed.of_grows hgrows h
  | opened c => exact Placed.of_grows hgrows h
  | stored c id =>
      obtain ⟨hplaced, q, hid, hasked⟩ := h
      exact ⟨hplaced.of_grows hgrows, q, hid, hasked.of_grows hgrows⟩
  | writing writes result =>
      obtain ⟨c, q, hplaced, hasked, hreplies⟩ := h
      exact ⟨c, q, hplaced.of_grows hgrows, hasked.of_grows hgrows,
        hreplies.of_grows hgrows⟩
  | finished result =>
      intro text hreceived
      obtain ⟨c, hrecorded, hnamed⟩ := h text hreceived
      exact ⟨c, hrecorded.of_grows hgrows, hnamed⟩

/-- What a statement does to the messages and the places of the conversations: it
inserts a message of the call, or none. -/
inductive Wrote (repr : Json → String) (call : ChatCall) (db db' : Database) : Prop where
  | nothing (hplaces : places db <+: places db') (hmessages : db'.messages = db.messages)
  | message (row : Message) (hplaces : places db' = places db)
      (hmessages : db'.messages = db.messages.create row)
      (hplace : (row.conversation, pairOf call) ∈ places db)
      (htext : row.sender = .user → textColumn repr call.message = some row.content)

theorem Wrote.grows {call : ChatCall} {db db' : Database} (h : Wrote repr call db db') :
    Grows db db' := by
  cases h with
  | nothing hplaces hmessages => exact ⟨hplaces, hmessages ▸ List.prefix_refl _⟩
  | message row hplaces hmessages hplace htext =>
      refine ⟨hplaces ▸ List.prefix_refl _, ?_⟩
      rw [hmessages, Table.rows_create]
      exact List.prefix_append _ _

theorem Wrote.belongs {call : ChatCall} {db db' : Database} (h : Wrote repr call db db')
    {m : Message} (hm : m ∈ db'.messages.rows) :
    m ∈ db.messages.rows ∨ Belongs repr db' call m := by
  cases h with
  | nothing hplaces hmessages => exact Or.inl (hmessages ▸ hm)
  | message row hplaces hmessages hplace htext =>
      rw [hmessages, Table.mem_create] at hm
      rcases hm with hm | rfl
      · exact Or.inl hm
      · exact Or.inr ⟨hplaces ▸ hplace, htext⟩

theorem wrote_refl (call : ChatCall) (db : Database) : Wrote repr call db db :=
  .nothing (List.prefix_refl _) rfl

section Replies

variable {env : ChatEnv} {call : ChatCall}

theorem message_mem_replyWrites {conversation : Nat} {ground : Grounding}
    {content : Option String} {usage : Option Usage} {writes : List ReplyWrite}
    (h : replyWrites repr env call conversation ground content usage = some writes) :
    (∀ row, .message row ∈ writes → row.conversation = conversation ∧ row.sender = .bot) ∧
      ∃ row text, content = some text ∧ .message row ∈ writes ∧ row.content = text := by
  unfold replyWrites at h
  split at h
  · rename_i text total _
    cases h
    refine ⟨?_, _, text, rfl, List.mem_cons_self, rfl⟩
    intro row hrow
    rcases List.mem_cons.mp hrow with hrow | hrow
    · cases hrow
      exact ⟨rfl, rfl⟩
    · cases hused : usageRow repr call usage <;> simp [hused] at hrow
  · cases h

theorem replies_failWith (db : Database) (c : Conversation) (q : Message) (e : ChatError) :
    Replies env db c q (failWith e).writes (failWith e).result := by
  refine ⟨?_, ?_, ?_⟩
  · intro row hrow
    cases hrow
  · intro text d hresult
    cases hresult
  · intro text hreceived
    cases hreceived

theorem replies_streamedReply (db : Database) (c : Conversation) (q : Message)
    (ground : Grounding) (prompt : String) :
    Replies env db c q (streamedReply repr env call c ground prompt).writes
      (streamedReply repr env call c ground prompt).result := by
  unfold streamedReply
  simp only
  split
  · exact replies_failWith _ _ _ _
  · rename_i streamed hstreamed
    split
    · rename_i count hdelivered
      refine ⟨?_, ?_, ?_⟩
      · intro row hrow
        cases hrow
      · intro text d hresult
        cases hresult
      · intro text hreceived
        simp [received, hdelivered] at hreceived
    · rename_i hdelivered
      split
      · exact replies_failWith _ _ _ _
      · rename_i writes hwrites
        obtain ⟨hrows, row, stored, hstored, hrow, hcontent⟩ := message_mem_replyWrites hwrites
        refine ⟨hrows, ?_, ?_⟩
        · intro text d hresult
          cases hresult
        · intro text hreceived
          refine Or.inl ⟨row, hrow, ?_⟩
          simp only [received, hdelivered, if_true, Option.some.injEq] at hreceived
          rw [hcontent, ← Option.some.inj hstored, ← hreceived]
          exact complete_streamResponse hstreamed

theorem replies_blockingReply (db : Database) (c : Conversation) (q : Message)
    (ground : Grounding) (language prompt : String) :
    Replies env db c q (blockingReply repr env call c ground language prompt).writes
      (blockingReply repr env call c ground language prompt).result := by
  unfold blockingReply
  simp only
  split
  · exact replies_failWith _ _ _ _
  · split
    · rename_i text writes htext hwrites
      obtain ⟨hrows, row, stored, hstored, hrow, hcontent⟩ := message_mem_replyWrites hwrites
      -- what is handed out is the text that was given to the row
      have hsame : row.content = text :=
        hcontent.trans (Option.some.inj (hstored.symm.trans htext))
      refine ⟨hrows, ?_, ?_⟩
      · intro answer d hresult
        cases hstream : call.stream with
        | true => simp [hstream] at hresult
        | false =>
            simp only [hstream, Bool.false_eq_true, if_false, ChatResult.answered.injEq]
              at hresult
            exact hresult.2.symm
      · intro answer hreceived
        refine Or.inl ⟨row, hrow, ?_⟩
        rw [hsame]
        cases hstream : call.stream with
        | true =>
            simp only [hstream, if_true, received] at hreceived
            split at hreceived
            · simpa [storedText] using hreceived
            · cases hreceived
        | false => simpa [hstream, received] using hreceived
    · exact replies_failWith _ _ _ _

theorem replies_replyOf (db : Database) (c : Conversation) (q : Message) (messageId : Nat) :
    Replies env db c q (replyOf repr env db call c messageId).writes
      (replyOf repr env db call c messageId).result := by
  unfold replyOf
  split
  · exact replies_failWith _ _ _ _
  · unfold respond
    split
    · exact replies_failWith _ _ _ _
    · exact replies_failWith _ _ _ _
    · split
      · exact replies_failWith _ _ _ _
      · split
        · exact replies_streamedReply _ _ _ _ _
        · exact replies_blockingReply _ _ _ _ _ _

end Replies

theorem placeOf_linkVisitor (db : Database) (visitor : Visitor) (c : Conversation) :
    placeOf (linkVisitor db visitor c).2 = placeOf c := by
  unfold linkVisitor
  split <;> rfl

theorem knows_afterQuery (repr : Json → String) (env : ChatEnv) (call : ChatCall)
    (db : Database) (visitor : Visitor) :
    Knows repr env call db (afterQuery visitor (conversationsOf db call)) := by
  rcases hquery : conversationsOf db call with _ | ⟨_ | ⟨c, _ | ⟨second, rest⟩⟩⟩
  · exact kept_raised repr env call db _
  · trivial
  · obtain ⟨hc, hfor⟩ := mem_conversationsOf hquery c List.mem_cons_self
    exact ⟨hfor, List.mem_map_of_mem hc⟩
  · exact kept_raised repr env call db _

theorem replies_applyWrite {env : ChatEnv} {db : Database} {c : Conversation} {q : Message}
    {write : ReplyWrite} {rest : List ReplyWrite} {result : ChatResult}
    (hq : q ∈ db.messages.rows) (hgrows : Grows db (applyWrite db write))
    (h : Replies env db c q (write :: rest) result) :
    Replies env (applyWrite db write) c q rest result := by
  refine ⟨fun row hrow => h.rows row (List.mem_cons_of_mem _ hrow), h.named, ?_⟩
  intro text hreceived
  rcases h.answer text hreceived with ⟨row, hrow, hcontent⟩ | ⟨a, ha⟩
  · rcases List.mem_cons.mp hrow with rfl | hrow
    · obtain ⟨hconversation, hsender⟩ := h.rows row List.mem_cons_self
      refine Or.inr ⟨db.messages.created row, ?_, hconversation, hsender, hcontent, ?_⟩
      · exact (db.messages.mem_create row _).mpr (Or.inr rfl)
      · exact db.messages.fresh q hq
    · exact Or.inl ⟨row, hrow, hcontent⟩
  · exact Or.inr ⟨a, ha.of_grows hgrows⟩

theorem kept_of_replies {env : ChatEnv} {call : ChatCall} {db : Database} {c : Conversation}
    {q : Message} {result : ChatResult} (hplaced : Placed db call c)
    (hasked : Asked repr db call c q) (h : Replies env db c q [] result) :
    Kept repr env call db result := by
  intro text hreceived
  rcases h.answer text hreceived with ⟨row, hrow, -⟩ | ⟨a, ha⟩
  · cases hrow
  · exact ⟨c, ⟨hplaced, q, a, hasked, ha⟩, h.named⟩

theorem wrote_applyWrite {env : ChatEnv} {call : ChatCall} {db : Database} {c : Conversation}
    {q : Message} {write : ReplyWrite} {rest : List ReplyWrite} {result : ChatResult}
    (hplaced : Placed db call c) (h : Replies env db c q (write :: rest) result) :
    Wrote repr call db (applyWrite db write) := by
  cases write with
  | message row =>
      obtain ⟨hconversation, hsender⟩ := h.rows row List.mem_cons_self
      refine .message row rfl rfl (hconversation ▸ hplaced.place) ?_
      intro huser
      rw [hsender] at huser
      cases huser
  | usage row => exact .nothing (List.prefix_refl _) rfl

theorem places_create (env : ChatEnv) (call : ChatCall) (db : Database) (visitor : Visitor) :
    places { db with
      conversations := db.conversations.create (newConversation env call visitor) } =
      places db ++ [(db.conversations.next, pairOf call)] := by
  simp only [places, Table.rows_create, List.map_append, List.map_cons, List.map_nil]
  rfl

theorem knows_advance {env : ChatEnv} {call : ChatCall} {db db' : Database}
    {before progress : Progress} (hknows : Knows repr env call db before)
    (h : advance repr env call db before = some (db', progress)) :
    Wrote repr call db db' ∧ Knows repr env call db' progress := by
  cases before with
  | waiting =>
      simp only [advance] at h
      split at h
      · cases h
        exact ⟨wrote_refl call db, kept_raised repr env call db _⟩
      · split at h <;> cases h <;> exact ⟨wrote_refl call db, trivial⟩
  | visitorMissing =>
      simp only [advance] at h
      split at h
      · cases h
        exact ⟨wrote_refl call db, trivial⟩
      · cases h
        exact ⟨.nothing (List.prefix_refl _) rfl, trivial⟩
  | visitorTaken =>
      simp only [advance] at h
      split at h
      · cases h
        exact ⟨wrote_refl call db, kept_raised repr env call db _⟩
      · cases h
        exact ⟨wrote_refl call db, trivial⟩
  | visitorKnown visitor =>
      cases h
      exact ⟨wrote_refl call db, knows_afterQuery repr env call db visitor⟩
  | conversationMissing visitor =>
      cases h
      have hplaces := places_create env call db visitor
      refine ⟨.nothing (hplaces ▸ List.prefix_append _ _) rfl, ?_, ?_⟩
      · exact ChatCall.isFor_iff.mpr ⟨rfl, rfl⟩
      · rw [hplaces]
        exact List.mem_append_right _ List.mem_cons_self
  | conversationFound visitor c =>
      cases h
      have hplaced : Placed db call c := hknows
      obtain ⟨hplaces, hplace⟩ := places_updatePreview call hplaced.mem
      refine ⟨.nothing (hplaces ▸ List.prefix_refl _) (updatePreview_frame db call c).2,
        ?_, ?_⟩
      · exact (updatePreview_same db call c).2.1.trans hplaced.isFor
      · rw [hplaces, hplace]
        exact hplaced.mem
  | conversationMarked visitor c =>
      cases h
      have hplaced : Placed db call c := hknows
      have hplaces : places (linkVisitor db visitor c).1 = places db :=
        places_linkVisitor hplaced.mem
      refine ⟨.nothing (hplaces ▸ List.prefix_refl _) (linkVisitor_frame db visitor c).2,
        ?_, ?_⟩
      · exact (linkVisitor_same db call visitor c).2.1.trans hplaced.isFor
      · rw [hplaces]
        exact (placeOf_linkVisitor db visitor c).symm ▸ hplaced.mem
  | opened c =>
      have hplaced : Placed db call c := hknows
      simp only [advance] at h
      split at h
      · cases h
        exact ⟨wrote_refl call db, kept_raised repr env call db _⟩
      · rename_i content hcontent
        cases h
        have hwrote : Wrote repr call db { db with
            messages := db.messages.create (userMessage env c.id content) } :=
          .message _ rfl rfl hplaced.place fun _ => hcontent
        refine ⟨hwrote, hplaced.of_grows hwrote.grows, _, rfl, ?_, rfl, rfl, hcontent⟩
        exact (db.messages.mem_create _ _).mpr (Or.inr rfl)
  | stored c messageId =>
      cases h
      obtain ⟨hplaced, q, -, hasked⟩ := hknows
      exact ⟨wrote_refl call db, c, q, hplaced, hasked, replies_replyOf db c q messageId⟩
  | writing writes result =>
      obtain ⟨c, q, hplaced, hasked, hreplies⟩ := hknows
      cases writes with
      | nil =>
          cases h
          exact ⟨wrote_refl call db, kept_of_replies hplaced hasked hreplies⟩
      | cons write rest =>
          cases h
          have hwrote : Wrote repr call db (applyWrite db write) :=
            wrote_applyWrite hplaced hreplies
          exact ⟨hwrote, c, q, hplaced.of_grows hwrote.grows, hasked.of_grows hwrote.grows,
            replies_applyWrite hasked.mem hwrote.grows hreplies⟩
  | finished result => cases h

section Interleavings

variable {ι : Type}

/-- Every message that is new belongs to one of the calls. -/
def Attributed (repr : Json → String) (calls : ι → ChatCall) (before db : Database) :
    Prop :=
  ∀ m ∈ db.messages.rows, m ∈ before.messages.rows ∨ ∃ i, Belongs repr db (calls i) m

theorem Attributed.of_wrote {calls : ι → ChatCall} {before db db' : Database} (i : ι)
    (h : Attributed repr calls before db) (hwrote : Wrote repr (calls i) db db') :
    Attributed repr calls before db' := by
  intro m hm
  rcases hwrote.belongs hm with hold | hnew
  · rcases h m hold with hbefore | ⟨j, hj⟩
    · exact Or.inl hbefore
    · exact Or.inr ⟨j, hj.of_grows hwrote.grows⟩
  · exact Or.inr ⟨i, hnew⟩

variable [DecidableEq ι]

/-- Along every interleaving the messages grow, each new one belongs to a call, and every
call knows what its stage says. -/
theorem knows_of_reaches {start c : Config ι Database ChatProcess}
    (hwaiting : ∀ i, (start.locals i).progress = .waiting)
    (hrun : Reaches (step repr) anyStep start c) :
    (Grows start.shared c.shared ∧
      Attributed repr (fun i => (start.locals i).call) start.shared c.shared) ∧
      ∀ i, ((c.locals i).env = (start.locals i).env ∧
          (c.locals i).call = (start.locals i).call) ∧
        Knows repr (start.locals i).env (start.locals i).call c.shared
          (c.locals i).progress := by
  refine invariant_of_guarantee
    (fun db => Grows start.shared db ∧
      Attributed repr (fun i => (start.locals i).call) start.shared db)
    (fun i db p => (p.env = (start.locals i).env ∧ p.call = (start.locals i).call) ∧
      Knows repr (start.locals i).env (start.locals i).call db p.progress)
    Grows ?_ ?_ ?_ ?_ hrun
  · rintro i db db' p hgrows ⟨hsame, hknows⟩
    exact ⟨hsame, hknows.of_grows hgrows⟩
  · rintro _ i - db' q ⟨hgrows, hattributed⟩ ⟨⟨henv, hcall⟩, hknows⟩ - hact
    obtain ⟨⟨_, progress⟩, hadvance, hout⟩ := Option.map_eq_some_iff.mp hact
    cases hout
    rw [henv, hcall] at hadvance
    obtain ⟨hwrote, hnext⟩ := knows_advance hknows hadvance
    exact ⟨⟨hgrows.trans hwrote.grows, hattributed.of_wrote i hwrote⟩, hwrote.grows,
      ⟨henv, hcall⟩, hnext⟩
  · exact ⟨Grows.refl _, fun m hm => Or.inl hm⟩
  · intro i
    rw [hwaiting i]
    exact ⟨⟨rfl, rfl⟩, trivial⟩

omit [DecidableEq ι] in
theorem pair_eq_of_places {db : Database} {key : Nat} {a b : Nat × String}
    (ha : (key, a) ∈ places db) (hb : (key, b) ∈ places db) : a = b := by
  obtain ⟨r, hr, hra⟩ := List.mem_map.mp ha
  obtain ⟨s, hs, hsb⟩ := List.mem_map.mp hb
  have hkey : r.id = s.id := (congrArg Prod.fst hra).trans (congrArg Prod.fst hsb).symm
  have hsame : r = s := db.conversations.eq_of_key_eq hr hs hkey
  rw [hsame] at hra
  exact congrArg Prod.snd (hra.symm.trans hsb)

/-- Any number of concurrent calls, in any interleaving of their statements: no message is
lost or changed; every new message lies in a conversation of the chatbot and the visitor
of some call and, if a visitor wrote it, is that call's text; the history a call reads
holds, beside what was there before, only messages of calls for the same chatbot and
visitor; and a call whose reply was received, at once or as a stream that was read to its
end, has its question and, after it, the text of the reply in a conversation of its own. -/
theorem calls_kept_apart {start c : Config ι Database ChatProcess}
    (hwaiting : ∀ i, (start.locals i).progress = .waiting)
    (hrun : Reaches (step repr) anyStep start c) :
    start.shared.messages.rows <+: c.shared.messages.rows ∧
      (∀ m ∈ c.shared.messages.rows, m ∈ start.shared.messages.rows ∨
        ∃ i, Belongs repr c.shared (start.locals i).call m) ∧
      (∀ i conversation messageId,
        (c.locals i).progress = .stored conversation messageId →
        ∀ m ∈ c.shared.messages.rows, m.conversation = conversation.id →
          m ∈ start.shared.messages.rows ∨
            ∃ j, pairOf (start.locals j).call = pairOf (start.locals i).call ∧
              Belongs repr c.shared (start.locals j).call m) ∧
      ∀ i result text, (c.locals i).progress = .finished result →
        received (start.locals i).env result = some text →
        ∃ conversation, Recorded repr c.shared (start.locals i).call text conversation ∧
          ∀ answer d, result = .answered answer d → d = conversation := by
  obtain ⟨⟨hgrows, hattributed⟩, hknows⟩ := knows_of_reaches hwaiting hrun
  refine ⟨hgrows.messages, hattributed, ?_, ?_⟩
  · intro i conversation messageId hstored m hm hconversation
    have hi := (hknows i).2
    rw [hstored] at hi
    rcases hattributed m hm with hbefore | ⟨j, hj⟩
    · exact Or.inl hbefore
    · refine Or.inr ⟨j, ?_, hj⟩
      exact pair_eq_of_places (hconversation ▸ hj.place) hi.1.place
  · intro i result text hfinished hreceived
    have hi := (hknows i).2
    rw [hfinished] at hi
    exact hi text hreceived

/-- From one end to the other: whatever calls run at the same time, and however the stream
of a call is cut into reads, the widget ends with the text of an answer that is stored in
a conversation of the call, exactly when no error was streamed. -/
theorem widget_shows_stored (js : JsServices) {start c : Config ι Database ChatProcess}
    (hwaiting : ∀ i, (start.locals i).progress = .waiting)
    (hrun : Reaches (step repr) anyStep start c) {i : ι} {events : List SseEvent}
    (hfinished : (c.locals i).progress = .finished (.streaming events))
    (hread : (start.locals i).env.delivered = none) {reads : List (List Char)}
    (hwire : reads.flatten = wire (events.map Event.ofSse)) :
    ∃ conversation q a, Placed c.shared (start.locals i).call conversation ∧
      Asked repr c.shared (start.locals i).call conversation q ∧
      Answered c.shared conversation q (events.flatMap storedText) a ∧
      ((handleResponse js reads).1.currentText = jsText (codePoints a.content) ↔
        ∀ message, SseEvent.error message ∈ events → message = "") := by
  have hi := ((knows_of_reaches hwaiting hrun).2 i).2
  rw [hfinished] at hi
  have hreceived : received (start.locals i).env (.streaming events) =
      some (events.flatMap storedText) := by
    simp [received, hread]
  obtain ⟨conversation, ⟨hplaced, q, a, hasked, hanswered⟩, -⟩ := hi _ hreceived
  refine ⟨conversation, q, a, hplaced, hasked, hanswered, ?_⟩
  rw [currentText_handleResponse js hwire, hanswered.content]
  exact contentText_eq_text_iff events

end Interleavings

/-- Two visitors write to one chatbot at the same time. -/
def twoVisitors : Config (Fin 2) Database ChatProcess where
  shared := supportDb
  locals := fun i =>
    { env := plainEnv
      call := { plainCall (if i = 0 then "ada" else "ben") false with stream := false }
      progress := .waiting }

theorem twoVisitors_kept_apart :
    ∃ c, Reaches (step noRepr) anyStep twoVisitors c ∧
      c.shared.messages.rows.map Message.conversation = [1, 2, 1, 2] ∧
      ∀ m ∈ c.shared.messages.rows,
        ∃ i, Belongs noRepr c.shared (twoVisitors.locals i).call m := by
  obtain ⟨c, hrun, hrows⟩ : ∃ c, Reaches (step noRepr) anyStep twoVisitors c ∧
      c.shared.messages.rows.map Message.conversation = [1, 2, 1, 2] :=
    exists_reaches_of_replay
      [(0, ()), (1, ()), (0, ()), (1, ()), (0, ()), (1, ()), (0, ()), (1, ()), (0, ()),
        (1, ()), (0, ()), (1, ()), (0, ()), (1, ()), (0, ()), (1, ())]
      (by decide +kernel)
  refine ⟨c, hrun, hrows, ?_⟩
  intro m hm
  rcases (calls_kept_apart (fun _ => rfl) hrun).2.1 m hm with hbefore | hbelongs
  · cases hbefore
  · exact hbelongs

/-- The same with streams. -/
def twoStreams : Config (Fin 2) Database ChatProcess where
  shared := supportDb
  locals := fun i =>
    { env := plainEnv
      call := plainCall (if i = 0 then "ada" else "ben") false
      progress := .waiting }

/-- The events of a call that has streamed its reply. -/
def Progress.streamed? : Progress → Option (List SseEvent)
  | .finished (.streaming events) => some events
  | _ => none

theorem eq_of_streamed? {progress : Progress} {events : List SseEvent}
    (h : Progress.streamed? progress = some events) :
    progress = .finished (.streaming events) := by
  unfold Progress.streamed? at h
  split at h
  · cases h
    rfl
  · cases h

theorem twoStreams_shown :
    ∃ c a, Reaches (step noRepr) anyStep twoStreams c ∧ a ∈ c.shared.messages.rows ∧
      a.sender = .bot ∧
      (handleResponse plainJs (byteReads [.ofSse (.content "Hello.")])).1.currentText =
        jsText (codePoints a.content) := by
  obtain ⟨c, hrun, hstreamed⟩ : ∃ c, Reaches (step noRepr) anyStep twoStreams c ∧
      Progress.streamed? (c.locals 1).progress = some [.content "Hello."] :=
    exists_reaches_of_replay
      [(0, ()), (1, ()), (0, ()), (1, ()), (0, ()), (1, ()), (0, ()), (1, ()), (0, ()),
        (1, ()), (0, ()), (1, ()), (0, ()), (1, ()), (0, ()), (1, ())]
      (by decide +kernel)
  obtain ⟨_, _, a, -, -, hanswered, hshown⟩ := widget_shows_stored plainJs (fun _ => rfl) hrun
    (eq_of_streamed? hstreamed) rfl (flatten_byteReads [.ofSse (.content "Hello.")])
  refine ⟨c, a, hrun, hanswered.mem, hanswered.sender, hshown.mpr ?_⟩
  intro message hmessage
  simp at hmessage

end Botman.ChatIsolation
