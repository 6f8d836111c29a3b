import Mathlib.Data.Fintype.Basic
import Botman.Library.Transition
import Botman.ChatEffects

/-!
Calls of `process_chat_message` as interleaved sequences of database
statements.  `get_or_create` is a query, an insert where it found nothing and,
where a unique column refuses the insert, a second query.  Visitors have a
unique column; conversations have none.
-/

namespace Botman.ChatConcurrency

open Botman.Library.KeyedTable
open Botman.Library.PythonValue
open Botman.Library.Transition
open Botman.DataModel
open Botman.TenantContext
open Botman.ChatbotSettings
open Botman.ChatService
open Botman.ChatEffects

/-- Where a call stands, with the instances it holds in memory. -/
inductive Progress where
  | waiting
  | visitorMissing
  | visitorTaken
  | visitorKnown (visitor : Visitor)
  | conversationMissing (visitor : Visitor)
  | conversationFound (visitor : Visitor) (c : Conversation)
  | conversationMarked (visitor : Visitor) (c : Conversation)
  | opened (c : Conversation)
  | stored (c : Conversation) (messageId : Nat)
  | writing (writes : List ReplyWrite) (result : ChatResult)
  | finished (result : ChatResult)

/-- A call with the statement that it has come to. -/
structure ChatProcess where
  env : ChatEnv
  call : ChatCall
  progress : Progress

/-- What a call does with the conversations that its query has found. -/
def afterQuery (visitor : Visitor) : Option (List Conversation) → Progress
  | none => .finished (.raised .valueError)
  | some [] => .conversationMissing visitor
  | some [c] => .conversationFound visitor c
  | some (_ :: _ :: _) => .finished (.raised .multipleObjectsReturned)

/-- The reply of a call whose question is stored. -/
def replyOf (repr : Json → String) (env : ChatEnv) (db : Database) (call : ChatCall)
    (c : Conversation) (messageId : Nat) : Reply :=
  match prepare env call with
  | .error e => failWith e
  | .ok (language, processing) =>
      respond repr env db call language processing c messageId

/-- The next database statement of a call. -/
def advance (repr : Json → String) (env : ChatEnv) (call : ChatCall) (db : Database) :
    Progress → Option (Database × Progress)
  | .waiting =>
      match prepare env call with
      | .error e => some (db, .finished (.raised e))
      | .ok _ =>
          match findVisitor db call.visitorId with
          | none => some (db, .visitorMissing)
          | some visitor => some (db, .visitorKnown visitor)
  | .visitorMissing =>
      match findVisitor db call.visitorId with
      | some _ => some (db, .visitorTaken)
      | none =>
          some ({ db with visitors := db.visitors.create (newVisitor call.visitorId) },
            .visitorKnown (db.visitors.created (newVisitor call.visitorId)))
  | .visitorTaken =>
      match findVisitor db call.visitorId with
      | none => some (db, .finished (.raised .integrityError))
      | some visitor => some (db, .visitorKnown visitor)
  | .visitorKnown visitor => some (db, afterQuery visitor (conversationsOf db call))
  | .conversationMissing visitor =>
      let row := newConversation env call visitor
      some ({ db with conversations := db.conversations.create row },
        .opened (db.conversations.created row))
  | .conversationFound visitor c =>
      let marked := updatePreview db call c
      some (marked.1, .conversationMarked visitor marked.2)
  | .conversationMarked visitor c =>
      let linked := linkVisitor db visitor c
      some (linked.1, .opened linked.2)
  | .opened c =>
      match textColumn repr call.message with
      | none => some (db, .finished (.raised .integrityError))
      | some content =>
          let row := userMessage env c.id content
          some ({ db with messages := db.messages.create row },
            .stored c (db.messages.created row).id)
  | .stored c messageId =>
      let reply := replyOf repr env db call c messageId
      some (db, .writing reply.writes reply.result)
  | .writing (write :: rest) result => some (applyWrite db write, .writing rest result)
  | .writing [] result => some (db, .finished result)
  | .finished _ => none

/-- A call that nothing comes between. -/
def solo (repr : Json → String) (env : ChatEnv) (call : ChatCall)
    (state : Database × Progress) (_ : Unit) : Option (Database × Progress) :=
  advance repr env call state.1 state.2

section Alone

variable {repr : Json → String} {env : ChatEnv} {call : ChatCall}

theorem solo_head {db db' : Database} {p p' : Progress} {last : Database × Progress}
    (hstep : advance repr env call db p = some (db', p'))
    (hrest : Reaches (solo repr env call) anyStep (db', p') last) :
    Reaches (solo repr env call) anyStep (db, p) last :=
  Relation.ReflTransGen.head ⟨(), trivial, hstep⟩ hrest

theorem solo_writing (db : Database) (writes : List ReplyWrite) (result : ChatResult) :
    Reaches (solo repr env call) anyStep (db, .writing writes result)
      (writes.foldl applyWrite db, .finished result) := by
  induction writes generalizing db with
  | nil => exact solo_head rfl Relation.ReflTransGen.refl
  | cons write rest ih => exact solo_head rfl (ih (applyWrite db write))

theorem solo_opened {language : String} {processing : Json}
    (hprepare : prepare env call = .ok (language, processing)) (db : Database)
    (c : Conversation) :
    Reaches (solo repr env call) anyStep (db, .opened c)
      ((converse repr env db call language processing c).1,
        .finished (converse repr env db call language processing c).2) := by
  unfold converse
  cases hcontent : textColumn repr call.message with
  | none => exact solo_head (by simp [advance, hcontent]) Relation.ReflTransGen.refl
  | some content =>
      refine solo_head (by simp only [advance, hcontent]; rfl) ?_
      refine solo_head rfl ?_
      simp only [replyOf, hprepare]
      exact solo_writing _ _ _

theorem solo_visitorKnown (repr : Json → String) {language : String} {processing : Json}
    (hprepare : prepare env call = .ok (language, processing)) (db : Database)
    (visitor : Visitor) :
    Reaches (solo repr env call) anyStep (db, .visitorKnown visitor)
      (match openFor env db call visitor with
        | (db, .error e) => (db, .finished (.raised e))
        | (db, .ok c) =>
            ((converse repr env db call language processing c).1,
              .finished (converse repr env db call language processing c).2)) := by
  refine solo_head rfl ?_
  unfold openFor
  rcases conversationsOf db call with _ | ⟨_ | ⟨c, _ | ⟨second, rest⟩⟩⟩
  · exact Relation.ReflTransGen.refl
  · exact solo_head rfl (solo_opened hprepare _ _)
  · exact solo_head rfl (solo_head rfl (solo_opened hprepare _ _))
  · exact Relation.ReflTransGen.refl

/-- Left alone, the statements of a call do what the call does. -/
theorem solo_processChatMessage (db : Database) :
    Reaches (solo repr env call) anyStep (db, .waiting)
      ((processChatMessage repr env db call).1,
        .finished (processChatMessage repr env db call).2) := by
  cases hprepare : prepare env call with
  | error e =>
      refine solo_head (by simp only [advance, hprepare]; rfl) ?_
      simp only [processChatMessage, hprepare]
      exact Relation.ReflTransGen.refl
  | ok text =>
      have hknown : Reaches (solo repr env call) anyStep (db, .waiting)
          ((getOrCreateVisitor db call.visitorId).1,
            .visitorKnown (getOrCreateVisitor db call.visitorId).2) := by
        cases hfind : findVisitor db call.visitorId with
        | some visitor =>
            refine solo_head (by simp only [advance, hprepare, hfind]; rfl) ?_
            simp only [getOrCreateVisitor, hfind]
            exact Relation.ReflTransGen.refl
        | none =>
            refine solo_head (by simp only [advance, hprepare, hfind]; rfl) ?_
            refine solo_head (by simp only [advance, hfind]; rfl) ?_
            simp only [getOrCreateVisitor, hfind]
            exact Relation.ReflTransGen.refl
      refine Relation.ReflTransGen.trans hknown ?_
      have hrest := solo_visitorKnown repr hprepare
        (getOrCreateVisitor db call.visitorId).1 (getOrCreateVisitor db call.visitorId).2
      simp only [processChatMessage, hprepare, openConversation]
      revert hrest
      rcases openFor env (getOrCreateVisitor db call.visitorId).1 call
        (getOrCreateVisitor db call.visitorId).2 with ⟨db', _ | _⟩
      · exact id
      · exact id

end Alone

section Places

/-- The key of a conversation with the chatbot and the visitor it is for. -/
def placeOf (c : Conversation) : Nat × Nat × String :=
  (c.id, c.chatbot, c.visitorIdentifier)

/-- The keys of the conversations with their chatbots and visitors. -/
def places (db : Database) : List (Nat × Nat × String) :=
  db.conversations.rows.map placeOf

/-- No chatbot has two conversations with one visitor. -/
def OneConversation (db : Database) : Prop :=
  ∀ a ∈ places db, ∀ b ∈ places db, a.2 = b.2 → a = b

instance (db : Database) : Decidable (OneConversation db) :=
  inferInstanceAs (Decidable (∀ a ∈ places db, ∀ b ∈ places db, a.2 = b.2 → a = b))

theorem places_saveConversation {db : Database} {c : Conversation}
    (h : placeOf c ∈ places db) : places (saveConversation db c) = places db := by
  obtain ⟨r, hr, hplace⟩ := List.mem_map.mp h
  have hexists : ∃ s ∈ db.conversations.rows, HasKey.key s = HasKey.key c :=
    ⟨r, hr, congrArg Prod.fst hplace⟩
  unfold places saveConversation
  rw [Table.rows_save_of_exists _ _ hexists, List.map_map]
  apply List.map_congr_left
  intro s hs
  by_cases hkey : HasKey.key s = HasKey.key c
  · have hsr : s = r := db.conversations.eq_of_key_eq hs hr
      (hkey.trans (congrArg Prod.fst hplace).symm)
    have hrc : HasKey.key r = HasKey.key c := congrArg Prod.fst hplace
    simp [Table.overwrite, hsr, hrc, hplace]
  · simp [Table.overwrite, hkey]

theorem places_updatePreview (call : ChatCall) {db : Database} {c : Conversation}
    (h : placeOf c ∈ places db) :
    places (updatePreview db call c).1 = places db ∧
      placeOf (updatePreview db call c).2 = placeOf c := by
  unfold updatePreview
  split
  · exact ⟨places_saveConversation h, rfl⟩
  · exact ⟨rfl, rfl⟩

theorem places_linkVisitor {db : Database} {visitor : Visitor} {c : Conversation}
    (h : placeOf c ∈ places db) : places (linkVisitor db visitor c).1 = places db := by
  unfold linkVisitor
  split
  · exact places_saveConversation h
  · rfl

end Places

/-- The call has missed its conversation and will insert one. -/
def Progress.inserting : Progress → Bool
  | .conversationMissing _ => true
  | _ => false

/-- The next statement of the call queries its conversation. -/
def Progress.querying : Progress → Bool
  | .visitorKnown _ => true
  | _ => false

/-- The conversation that the call has found, as it was read. -/
def Progress.held : Progress → Option Conversation
  | .conversationFound _ c => some c
  | .conversationMarked _ c => some c
  | _ => none

def Progress.error? : Progress → Option ChatError
  | .writing _ (.raised e) => some e
  | .finished (.raised e) => some e
  | _ => none

/-- What a statement of a call does to the conversations: it queries them,
inserts one, or leaves each in its place. -/
inductive Effect (call : ChatCall) (db : Database) (p : Progress) :
    Database → Progress → Prop where
  | query (visitor : Visitor) (hp : p = .visitorKnown visitor) :
      Effect call db p db (afterQuery visitor (conversationsOf db call))
  | insert (db' : Database) (c : Conversation) (hp : p.inserting = true)
      (hbots : db'.chatbots = db.chatbots)
      (hplaces : places db' = places db ++
        [(db.conversations.next, call.bot.id, call.visitorId)]) :
      Effect call db p db' (.opened c)
  | keep (db' : Database) (p' : Progress) (hbots : db'.chatbots = db.chatbots)
      (hplaces : places db' = places db) (hinserting : p'.inserting = false)
      (hheld : ∀ c, p'.held = some c → ∃ r, p.held = some r ∧ placeOf c = placeOf r)
      (herror : p'.error? ≠ some .multipleObjectsReturned) :
      Effect call db p db' p'

theorem Effect.pass {call : ChatCall} {db : Database} {p : Progress} (db' : Database)
    (p' : Progress) (hbots : db'.chatbots = db.chatbots)
    (hrows : db'.conversations = db.conversations) (hinserting : p'.inserting = false)
    (hheld : p'.held = none) (herror : p'.error? ≠ some .multipleObjectsReturned) :
    Effect call db p db' p' := by
  refine .keep db' p' hbots (by rw [places, places, hrows]) hinserting ?_ herror
  intro c hc
  rw [hheld] at hc
  cases hc

theorem applyWrite_chatbots (db : Database) (write : ReplyWrite) :
    (applyWrite db write).chatbots = db.chatbots := by
  cases write <;> rfl

theorem applyWrite_conversations (db : Database) (write : ReplyWrite) :
    (applyWrite db write).conversations = db.conversations := by
  cases write <;> rfl

/-- Once the conversation is open, the call can no longer find two. -/
def Unambiguous (result : ChatResult) : Prop :=
  result ≠ .raised .multipleObjectsReturned

theorem unambiguous_streamedReply (repr : Json → String) (env : ChatEnv)
    (call : ChatCall) (c : Conversation) (ground : Grounding) (prompt : String) :
    Unambiguous (streamedReply repr env call c ground prompt).result := by
  unfold streamedReply
  simp only
  split
  · simp [failWith, Unambiguous]
  · split
    · simp [Unambiguous]
    · split <;> simp [failWith, Unambiguous]

theorem unambiguous_blockingReply (repr : Json → String) (env : ChatEnv)
    (call : ChatCall) (c : Conversation) (ground : Grounding) (language prompt : String) :
    Unambiguous (blockingReply repr env call c ground language prompt).result := by
  unfold blockingReply
  simp only
  split
  · simp [failWith, Unambiguous]
  · split
    · cases call.stream <;> simp [Unambiguous]
    · simp [failWith, Unambiguous]

theorem unambiguous_respond (repr : Json → String) (env : ChatEnv) (db : Database)
    (call : ChatCall) (language : String) (processing : Json) (c : Conversation)
    (messageId : Nat) :
    Unambiguous (respond repr env db call language processing c messageId).result := by
  unfold respond
  split
  · simp [failWith, Unambiguous]
  · simp [failWith, Unambiguous]
  · split
    · simp [failWith, Unambiguous]
    · split
      · exact unambiguous_streamedReply _ _ _ _ _ _
      · exact unambiguous_blockingReply _ _ _ _ _ _ _

theorem prepare_error_ne {env : ChatEnv} {call : ChatCall} {e : ChatError}
    (h : prepare env call = .error e) : e ≠ .multipleObjectsReturned := by
  unfold prepare at h
  split at h
  · cases h
    decide
  · split at h
    · cases h
    · cases h
      decide

theorem unambiguous_replyOf (repr : Json → String) (env : ChatEnv) (db : Database)
    (call : ChatCall) (c : Conversation) (messageId : Nat) :
    Unambiguous (replyOf repr env db call c messageId).result := by
  unfold replyOf
  split
  · rename_i e hprepare
    simpa [failWith, Unambiguous] using prepare_error_ne hprepare
  · exact unambiguous_respond _ _ _ _ _ _ _ _

theorem error?_writing (writes : List ReplyWrite) {result : ChatResult}
    (h : Unambiguous result) :
    (Progress.writing writes result).error? ≠ some .multipleObjectsReturned := by
  cases result <;> simp_all [Progress.error?, Unambiguous]

theorem advance_effect {repr : Json → String} {env : ChatEnv} {call : ChatCall}
    {db db' : Database} {p p' : Progress}
    (hheld : ∀ c, p.held = some c → placeOf c ∈ places db)
    (herror : p.error? ≠ some .multipleObjectsReturned)
    (h : advance repr env call db p = some (db', p')) : Effect call db p db' p' := by
  cases p with
  | waiting =>
      simp only [advance] at h
      split at h
      · rename_i e hprepare
        cases h
        refine .pass _ _ rfl rfl rfl rfl ?_
        simpa [Progress.error?] using prepare_error_ne hprepare
      · split at h <;> cases h <;> exact .pass _ _ rfl rfl rfl rfl (by simp [Progress.error?])
  | visitorMissing =>
      simp only [advance] at h
      split at h <;> cases h <;> exact .pass _ _ rfl rfl rfl rfl (by simp [Progress.error?])
  | visitorTaken =>
      simp only [advance] at h
      split at h <;> cases h <;> exact .pass _ _ rfl rfl rfl rfl (by simp [Progress.error?])
  | visitorKnown visitor =>
      cases h
      exact .query visitor rfl
  | conversationMissing visitor =>
      cases h
      refine .insert _ _ rfl rfl ?_
      simp only [places, Table.rows_create, List.map_append, List.map_cons, List.map_nil]
      rfl
  | conversationFound visitor c =>
      cases h
      have hplaces := places_updatePreview call (hheld c rfl)
      refine .keep _ _ (updatePreview_frame db call c).1 hplaces.1 rfl ?_
        (by simp [Progress.error?])
      rintro _ ⟨⟩
      exact ⟨c, rfl, hplaces.2⟩
  | conversationMarked visitor c =>
      cases h
      refine .keep _ _ (linkVisitor_frame db visitor c).1
        (places_linkVisitor (hheld c rfl)) rfl ?_ (by simp [Progress.error?])
      rintro _ ⟨⟩
  | opened c =>
      simp only [advance] at h
      split at h <;> cases h <;> exact .pass _ _ rfl rfl rfl rfl (by simp [Progress.error?])
  | stored c messageId =>
      cases h
      exact .pass _ _ rfl rfl rfl rfl (error?_writing _ (unambiguous_replyOf _ _ _ _ _ _))
  | writing writes result =>
      cases writes with
      | nil =>
          cases h
          refine .pass _ _ rfl rfl rfl rfl ?_
          cases result <;> simp_all [Progress.error?]
      | cons write rest =>
          cases h
          refine .pass _ _ (applyWrite_chatbots db write) (applyWrite_conversations db write)
            rfl rfl ?_
          cases result <;> simp_all [Progress.error?]
  | finished result => cases h

section Interleavings

variable {ι : Type} [DecidableEq ι]

/-- One statement of one call, in any interleaving. -/
def step (repr : Json → String) :
    Config ι Database ChatProcess → ι × Unit → Option (Config ι Database ChatProcess) :=
  interleave fun _ db p =>
    (advance repr p.env p.call db p.progress).map fun out =>
      (out.1, { p with progress := out.2 })

/-- The chatbot and the visitor of a call. -/
def ChatProcess.pair (p : ChatProcess) : Nat × String :=
  (p.call.bot.id, p.call.visitorId)

/-- A call queries its conversation only when no call for the same chatbot and
visitor is about to insert one. -/
def QueriesAlone (c : Config ι Database ChatProcess) (move : ι × Unit) : Prop :=
  (c.locals move.1).progress.querying = true →
    ∀ j, (c.locals j).progress.inserting = true →
      (c.locals j).pair ≠ (c.locals move.1).pair

instance [Fintype ι] (c : Config ι Database ChatProcess) (move : ι × Unit) :
    Decidable (QueriesAlone c move) :=
  inferInstanceAs (Decidable ((c.locals move.1).progress.querying = true →
    ∀ j, (c.locals j).progress.inserting = true →
      (c.locals j).pair ≠ (c.locals move.1).pair))

/-- What a call knows of the conversations. -/
structure Informed (db : Database) (p : ChatProcess) : Prop where
  shown : ShowsBot db p.call.tenant p.call.bot.id
  absent : p.progress.inserting = true → ∀ place ∈ places db, place.2 ≠ p.pair
  held : ∀ c, p.progress.held = some c → placeOf c ∈ places db
  single : p.progress.error? ≠ some .multipleObjectsReturned

/-- What keeps the conversations unique: no two calls for one pair are about to
insert. -/
structure Safe (c : Config ι Database ChatProcess) : Prop where
  one : OneConversation c.shared
  informed : ∀ i, Informed c.shared (c.locals i)
  apart : ∀ i j, i ≠ j → (c.locals i).progress.inserting = true →
    (c.locals j).progress.inserting = true → (c.locals i).pair ≠ (c.locals j).pair

theorem Informed.of_places {db db' : Database} {p : ChatProcess} (h : Informed db p)
    (hbots : db'.chatbots = db.chatbots) (hplaces : places db' = places db) :
    Informed db' p :=
  ⟨h.shown.of_chatbots hbots, hplaces ▸ h.absent, hplaces ▸ h.held, h.single⟩

theorem Informed.of_insert {db db' : Database} {p : ChatProcess} (h : Informed db p)
    (hbots : db'.chatbots = db.chatbots) {place : Nat × Nat × String}
    (hplaces : places db' = places db ++ [place])
    (hother : p.progress.inserting = true → place.2 ≠ p.pair) : Informed db' p := by
  refine ⟨h.shown.of_chatbots hbots, ?_, ?_, h.single⟩
  · intro hinserting q hq
    rw [hplaces, List.mem_append, List.mem_singleton] at hq
    rcases hq with hq | rfl
    · exact h.absent hinserting q hq
    · exact hother hinserting
  · intro c hc
    rw [hplaces]
    exact List.mem_append_left _ (h.held c hc)

theorem OneConversation.append {db db' : Database} (h : OneConversation db)
    {place : Nat × Nat × String} (hplaces : places db' = places db ++ [place])
    (hnew : ∀ q ∈ places db, q.2 ≠ place.2) : OneConversation db' := by
  intro a ha b hb hab
  rw [hplaces, List.mem_append, List.mem_singleton] at ha hb
  rcases ha with ha | rfl <;> rcases hb with hb | rfl
  · exact h a ha b hb hab
  · exact absurd hab (hnew a ha)
  · exact absurd hab.symm (hnew b hb)
  · rfl

theorem isFor_iff_pair {p : ChatProcess} {c : Conversation} :
    p.call.isFor c = true ↔ (placeOf c).2 = p.pair := by
  simp [ChatCall.isFor_iff, placeOf, ChatProcess.pair]

theorem informed_afterQuery {db : Database} {p : ChatProcess} (hone : OneConversation db)
    (hshown : ShowsBot db p.call.tenant p.call.bot.id) (visitor : Visitor) :
    Informed db { p with progress := afterQuery visitor (conversationsOf db p.call) } := by
  have hunique : ∀ r ∈ db.conversations.rows, ∀ s ∈ db.conversations.rows,
      p.call.isFor r = true → p.call.isFor s = true → r.id = s.id := by
    intro r hr s hs hrfor hsfor
    have hplace := hone _ (List.mem_map_of_mem hr) _ (List.mem_map_of_mem hs)
      ((isFor_iff_pair.mp hrfor).trans (isFor_iff_pair.mp hsfor).symm)
    exact congrArg Prod.fst hplace
  rcases conversationsOf_cases hshown hunique with ⟨hquery, hnone⟩ | ⟨c, hc, -, hquery⟩
  · rw [hquery]
    refine ⟨hshown, ?_, by simp [afterQuery, Progress.held],
      by simp [afterQuery, Progress.error?]⟩
    rintro - place hplace hpair
    obtain ⟨r, hr, rfl⟩ := List.mem_map.mp hplace
    have hfor := isFor_iff_pair.mpr hpair
    rw [hnone r hr] at hfor
    cases hfor
  · rw [hquery]
    refine ⟨hshown, by simp [afterQuery, Progress.inserting], ?_,
      by simp [afterQuery, Progress.error?]⟩
    rintro _ ⟨⟩
    exact List.mem_map_of_mem hc

theorem Safe.update {c : Config ι Database ChatProcess} (h : Safe c) (i : ι)
    {db' : Database} {q : Progress} (hone : OneConversation db')
    (hothers : ∀ j, j ≠ i → Informed db' (c.locals j))
    (hself : Informed db' { c.locals i with progress := q })
    (hapart : q.inserting = true → ∀ j, j ≠ i →
      (c.locals j).progress.inserting = true → (c.locals j).pair ≠ (c.locals i).pair) :
    Safe { shared := db'
           locals := Function.update c.locals i { c.locals i with progress := q } } := by
  refine ⟨hone, ?_, ?_⟩
  · intro j
    by_cases hj : j = i
    · subst hj
      simpa using hself
    · simpa [hj] using hothers j hj
  · intro a b hab
    by_cases ha : a = i
    · subst ha
      have hb : b ≠ a := Ne.symm hab
      simp only [Function.update_self, Function.update_of_ne hb]
      intro hq hinserting
      exact (hapart hq b hb hinserting).symm
    · simp only [Function.update_of_ne ha]
      by_cases hb : b = i
      · subst hb
        simp only [Function.update_self]
        intro hinserting hq
        exact hapart hq a ha hinserting
      · simp only [Function.update_of_ne hb]
        exact h.apart a b hab

theorem safe_step (repr : Json → String) (c d : Config ι Database ChatProcess)
    (move : ι × Unit) (h : Safe c) (hguard : QueriesAlone c move)
    (hstep : step repr c move = some d) : Safe d := by
  obtain ⟨_, _, hact, rfl⟩ := interleave_eq_some_iff.mp hstep
  obtain ⟨⟨db', q⟩, hadvance, hout⟩ := Option.map_eq_some_iff.mp hact
  cases hout
  have hself := h.informed move.1
  cases advance_effect hself.held hself.single hadvance with
  | query visitor hp =>
      refine h.update move.1 h.one (fun j _ => h.informed j)
        (informed_afterQuery h.one hself.shown visitor) ?_
      intro _ j _ hinserting
      exact hguard (by rw [hp]; rfl) j hinserting
  | insert _ row hp hbots hplaces =>
      refine h.update move.1 (h.one.append hplaces (hself.absent hp)) ?_ ?_ ?_
      · intro j hj
        refine (h.informed j).of_insert hbots hplaces ?_
        intro hinserting
        exact h.apart move.1 j hj.symm hp hinserting
      · exact ⟨hself.shown.of_chatbots hbots, by simp [Progress.inserting],
          by simp [Progress.held], by simp [Progress.error?]⟩
      · simp [Progress.inserting]
  | keep _ _ hbots hplaces hinserting hheld herror =>
      refine h.update move.1 (by rw [OneConversation, hplaces]; exact h.one)
        (fun j _ => (h.informed j).of_places hbots hplaces) ?_ ?_
      · refine ⟨hself.shown.of_chatbots hbots, ?_, ?_, herror⟩
        · intro hp
          rw [hinserting] at hp
          cases hp
        · intro r hr
          obtain ⟨s, hs, hplace⟩ := hheld r hr
          rw [hplaces, hplace]
          exact hself.held s hs
      · intro hp
        rw [hinserting] at hp
        cases hp

omit [DecidableEq ι] in
theorem safe_of_waiting {start : Config ι Database ChatProcess}
    (hone : OneConversation start.shared)
    (hwaiting : ∀ i, (start.locals i).progress = .waiting)
    (hshown : ∀ i, ShowsBot start.shared (start.locals i).call.tenant
      (start.locals i).call.bot.id) : Safe start := by
  refine ⟨hone, ?_, ?_⟩
  · intro i
    refine ⟨hshown i, ?_, ?_, ?_⟩ <;>
      simp [hwaiting i, Progress.inserting, Progress.held, Progress.error?]
  · intro i j _ hinserting
    simp [hwaiting i, Progress.inserting] at hinserting

/-- Any number of concurrent calls, in any interleaving in which a call queries
its conversation only when no call for the same chatbot and visitor is between
a query that found nothing and its insert: at most one conversation exists per
chatbot and visitor, and no call fails because it found several. -/
theorem reaches_oneConversation (repr : Json → String)
    {start c : Config ι Database ChatProcess} (hone : OneConversation start.shared)
    (hwaiting : ∀ i, (start.locals i).progress = .waiting)
    (hshown : ∀ i, ShowsBot start.shared (start.locals i).call.tenant
      (start.locals i).call.bot.id)
    (hrun : Reaches (step repr) QueriesAlone start c) :
    OneConversation c.shared ∧
      ∀ i, (c.locals i).progress.error? ≠ some .multipleObjectsReturned := by
  have hsafe : Safe c := invariant_of_reaches Safe
    (fun s a t h hguard hnext => safe_step repr s t a h hguard hnext)
    (safe_of_waiting hone hwaiting hshown) hrun
  exact ⟨hsafe.one, fun i => (hsafe.informed i).single⟩

end Interleavings

/-- Three calls of one visitor, none of which has begun. -/
def threeCalls : Config (Fin 3) Database ChatProcess where
  shared := supportDb
  locals := fun _ =>
    { env := plainEnv, call := plainCall "visitor" false, progress := .waiting }

/-- The first two calls miss the conversation before either inserts it; the
third call then fails. -/
theorem threeCalls_duplicate :
    ∃ c, Reaches (step noRepr) anyStep threeCalls c ∧
      ¬ OneConversation c.shared ∧
      (c.locals 2).progress.error? = some .multipleObjectsReturned :=
  exists_reaches_of_replay
    [(0, ()), (0, ()), (1, ()), (0, ()), (1, ()), (0, ()), (1, ()), (2, ()), (2, ())]
    (by decide +kernel)

theorem threeCalls_in_turn :
    ∃ c, Reaches (step noRepr) QueriesAlone threeCalls c ∧
      (places c.shared).length = 1 ∧ c.shared.messages.rows.length = 6 ∧
      OneConversation c.shared ∧
      ∀ i, (c.locals i).progress.error? ≠ some .multipleObjectsReturned := by
  obtain ⟨c, hrun, hcount⟩ : ∃ c,
      Reaches (step noRepr) QueriesAlone threeCalls c ∧
        (places c.shared).length = 1 ∧ c.shared.messages.rows.length = 6 :=
    exists_reaches_of_replay
      [(0, ()), (0, ()), (1, ()), (0, ()), (2, ()), (0, ()), (1, ()), (1, ()), (1, ()),
        (1, ()), (0, ()), (0, ()), (0, ()), (0, ()), (1, ()), (1, ()), (1, ()),
        (2, ()), (2, ()), (2, ()), (2, ()), (2, ()), (2, ()), (2, ())]
      (by decide +kernel)
  refine ⟨c, hrun, hcount.1, hcount.2, ?_⟩
  exact reaches_oneConversation noRepr (by decide) (fun _ => rfl)
    (fun _ => showsBot_supportDb) hrun

end Botman.ChatConcurrency
