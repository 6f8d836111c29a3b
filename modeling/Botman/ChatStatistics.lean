import Botman.Library.GroupedSums
import Botman.AnalyticsGraph
import Botman.ChatConcurrency

/-!
`AnalyticsView`, the numbers of a chatbot that are computed from the tables on every
request, after concurrent calls.  The visitors it counts are the distinct values of a
foreign key that the calls fill in, and every call links its conversation with the visitor
it belongs to.
-/

namespace Botman.ChatStatistics

open Botman.Library.KeyedTable
open Botman.Library.PythonValue
open Botman.Library.Transition
open Botman.Library.GroupedSums
open Botman.DataModel
open Botman.TenantContext
open Botman.TenantPrograms
open Botman.PreviewAnalytics
open Botman.AnalyticsApi
open Botman.AnalyticsGraph
open Botman.ChatService
open Botman.ChatEffects
open Botman.ChatConcurrency

section Linking

/-- The column `external_id` is unique. -/
def UniqueVisitors (db : Database) : Prop :=
  ∀ v ∈ db.visitors.rows, ∀ w ∈ db.visitors.rows, v.externalId = w.externalId → v = w

/-- The conversation refers to the visitor whose identifier it carries. -/
def LinkedTo (db : Database) (c : Conversation) : Prop :=
  ∃ v ∈ db.visitors.rows, c.visitor = some v.id ∧ v.externalId = c.visitorIdentifier

/-- Visitors are unique, and every conversation refers to the one that it names. -/
structure Linked (db : Database) : Prop where
  unique : UniqueVisitors db
  conversations : ∀ c ∈ db.conversations.rows, LinkedTo db c

theorem LinkedTo.mono {db db' : Database} (h : db.visitors.rows <+: db'.visitors.rows)
    {c : Conversation} (hc : LinkedTo db c) : LinkedTo db' c := by
  obtain ⟨v, hv, hlink⟩ := hc
  exact ⟨v, h.subset hv, hlink⟩

/-- What a call holds before its conversation is open: a visitor that is stored, and an
instance that is linked. -/
def Holds (db : Database) (call : ChatCall) : Progress → Prop
  | .visitorKnown v => v ∈ db.visitors.rows ∧ v.externalId = call.visitorId
  | .conversationMissing v => v ∈ db.visitors.rows ∧ v.externalId = call.visitorId
  | .conversationFound _ c => LinkedTo db c
  | .conversationMarked _ c => LinkedTo db c
  | _ => True

theorem Holds.mono {db db' : Database} (h : db.visitors.rows <+: db'.visitors.rows)
    {call : ChatCall} {progress : Progress} (hp : Holds db call progress) :
    Holds db' call progress := by
  cases progress with
  | visitorKnown v => exact ⟨h.subset hp.1, hp.2⟩
  | conversationMissing v => exact ⟨h.subset hp.1, hp.2⟩
  | conversationFound v c => exact LinkedTo.mono h hp
  | conversationMarked v c => exact LinkedTo.mono h hp
  | waiting | visitorMissing | visitorTaken => trivial
  | opened c | finished result => trivial
  | stored c id | writing writes result => trivial

theorem findVisitor_spec {db : Database} {externalId : String} {v : Visitor}
    (h : findVisitor db externalId = some v) :
    v ∈ db.visitors.rows ∧ v.externalId = externalId :=
  ⟨List.mem_of_find?_eq_some h, by simpa using List.find?_some h⟩

theorem UniqueVisitors.create {db : Database} (h : UniqueVisitors db) {externalId : String}
    (hnone : findVisitor db externalId = none) :
    UniqueVisitors { db with visitors := db.visitors.create (newVisitor externalId) } := by
  have hfresh : ∀ v ∈ db.visitors.rows, v.externalId ≠ externalId := by
    simpa [findVisitor] using hnone
  intro v hv w hw hsame
  rcases (db.visitors.mem_create _ _).mp hv with hv | rfl <;>
    rcases (db.visitors.mem_create _ _).mp hw with hw | rfl
  · exact h v hv w hw hsame
  · exact absurd hsame (hfresh v hv)
  · exact absurd hsame.symm (hfresh w hw)
  · rfl

theorem Linked.save {db : Database} (h : Linked db) {c : Conversation}
    (hc : LinkedTo db c) : Linked (saveConversation db c) := by
  refine ⟨h.unique, fun r hr => ?_⟩
  rcases (db.conversations.mem_save c r).mp hr with rfl | ⟨hr, -⟩
  · exact hc
  · exact h.conversations r hr

theorem linked_of_nil {db : Database} (hvisitors : db.visitors.rows = [])
    (hconversations : db.conversations.rows = []) : Linked db := by
  refine ⟨?_, ?_⟩
  · intro v hv
    rw [hvisitors] at hv
    cases hv
  · intro c hc
    rw [hconversations] at hc
    cases hc

theorem Linked.congr {db db' : Database} (h : Linked db)
    (hvisitors : db'.visitors = db.visitors)
    (hconversations : db'.conversations = db.conversations) : Linked db' := by
  refine ⟨?_, ?_⟩
  · unfold UniqueVisitors
    rw [hvisitors]
    exact h.unique
  · unfold LinkedTo
    rw [hvisitors, hconversations]
    exact h.conversations

/-- What each statement of a call does to the links. -/
structure Links (db db' : Database) (call : ChatCall) (progress : Progress) : Prop where
  linked : Linked db'
  visitors : db.visitors.rows <+: db'.visitors.rows
  holds : Holds db' call progress

theorem Linked.links {db db' : Database} (h : Linked db)
    (hvisitors : db'.visitors = db.visitors)
    (hconversations : db'.conversations = db.conversations) {call : ChatCall}
    {progress : Progress} (hholds : Holds db call progress) : Links db db' call progress := by
  have hgrows : db.visitors.rows <+: db'.visitors.rows := by
    rw [hvisitors]
  exact ⟨h.congr hvisitors hconversations, hgrows, hholds.mono hgrows⟩

theorem holds_afterQuery {db : Database} (h : Linked db) {call : ChatCall} {v : Visitor}
    (hv : v ∈ db.visitors.rows ∧ v.externalId = call.visitorId) :
    Holds db call (afterQuery v (conversationsOf db call)) := by
  rcases hquery : conversationsOf db call with _ | ⟨_ | ⟨c, _ | ⟨second, rest⟩⟩⟩
  · trivial
  · exact hv
  · exact h.conversations c (mem_conversationsOf hquery c List.mem_cons_self).1
  · trivial

theorem Linked.links_visitor {db : Database} (h : Linked db) {call : ChatCall}
    (hnone : findVisitor db call.visitorId = none) :
    let row := newVisitor call.visitorId
    Links db { db with visitors := db.visitors.create row } call
      (.visitorKnown (db.visitors.created row)) := by
  intro row
  have hgrows : db.visitors.rows <+: (db.visitors.create row).rows := List.prefix_append _ _
  refine ⟨⟨h.unique.create hnone, ?_⟩, hgrows, ?_, rfl⟩
  · intro c hc
    exact LinkedTo.mono hgrows (h.conversations c hc)
  · exact (db.visitors.mem_create _ _).mpr (Or.inr rfl)

theorem Linked.links_conversation {db : Database} (h : Linked db) (env : ChatEnv)
    {call : ChatCall} {v : Visitor} (hv : v ∈ db.visitors.rows ∧ v.externalId = call.visitorId) :
    let row := newConversation env call v
    Links db { db with conversations := db.conversations.create row } call
      (.opened (db.conversations.created row)) := by
  intro row
  refine ⟨⟨h.unique, ?_⟩, List.prefix_refl _, trivial⟩
  intro c hc
  rcases (db.conversations.mem_create _ _).mp hc with hc | rfl
  · exact h.conversations c hc
  · exact ⟨v, hv.1, rfl, hv.2⟩

theorem links_advance {repr : Json → String} {env : ChatEnv} {call : ChatCall}
    {db db' : Database} {before progress : Progress} (hlinked : Linked db)
    (hholds : Holds db call before)
    (h : advance repr env call db before = some (db', progress)) :
    Links db db' call progress := by
  cases before with
  | waiting =>
      simp only [advance] at h
      split at h
      · cases h
        exact hlinked.links rfl rfl trivial
      · split at h
        · cases h
          exact hlinked.links rfl rfl trivial
        · rename_i v hv
          cases h
          exact hlinked.links rfl rfl (findVisitor_spec hv)
  | visitorMissing =>
      simp only [advance] at h
      split at h
      · cases h
        exact hlinked.links rfl rfl trivial
      · rename_i hnone
        cases h
        exact hlinked.links_visitor hnone
  | visitorTaken =>
      simp only [advance] at h
      split at h
      · cases h
        exact hlinked.links rfl rfl trivial
      · rename_i v hv
        cases h
        exact hlinked.links rfl rfl (findVisitor_spec hv)
  | visitorKnown v =>
      cases h
      exact hlinked.links rfl rfl (holds_afterQuery hlinked hholds)
  | conversationMissing v =>
      cases h
      exact hlinked.links_conversation env hholds
  | conversationFound v c =>
      cases h
      -- a stale instance is written back, and refers to the same visitor
      unfold updatePreview
      split
      · have hc : LinkedTo db { c with isPreview := call.previewMode } := hholds
        exact ⟨hlinked.save hc, List.prefix_refl _, hc⟩
      · exact hlinked.links rfl rfl hholds
  | conversationMarked v c =>
      cases h
      unfold linkVisitor
      split
      · rename_i hnone
        obtain ⟨w, -, hw, -⟩ := hholds
        rw [hnone] at hw
        cases hw
      · exact hlinked.links rfl rfl trivial
  | opened c =>
      simp only [advance] at h
      split at h
      · cases h
        exact hlinked.links rfl rfl trivial
      · cases h
        apply hlinked.links
        · rfl
        · rfl
        · trivial
  | stored c messageId =>
      cases h
      exact hlinked.links rfl rfl trivial
  | writing writes result =>
      cases writes with
      | nil =>
          cases h
          exact hlinked.links rfl rfl trivial
      | cons write rest =>
          cases h
          refine hlinked.links ?_ (applyWrite_conversations db write) trivial
          cases write <;> rfl
  | finished result => cases h

variable {ι : Type} [DecidableEq ι]

theorem linked_of_reaches {repr : Json → String} {start c : Config ι Database ChatProcess}
    (hlinked : Linked start.shared)
    (hwaiting : ∀ i, (start.locals i).progress = .waiting)
    (hrun : Reaches (step repr) anyStep start c) : Linked c.shared := by
  refine (invariant_of_guarantee Linked (fun _ db p => Holds db p.call p.progress)
    (fun db db' => db.visitors.rows <+: db'.visitors.rows) ?_ ?_ hlinked ?_ hrun).1
  · intro i db db' p hgrows hholds
    exact hholds.mono hgrows
  · intro _ i _ db' q hlinked hholds _ hact
    obtain ⟨⟨_, progress⟩, hadvance, hout⟩ := Option.map_eq_some_iff.mp hact
    cases hout
    have hlinks := links_advance hlinked hholds hadvance
    exact ⟨hlinks.linked, hlinks.visitors, hlinks.holds⟩
  · intro i
    rw [hwaiting i]
    trivial

end Linking

section View

/-- The body of a response of `AnalyticsView`. -/
structure AnalyticsData where
  totalConversations : Nat
  totalMessages : Nat
  uniqueVisitors : Nat
  dailyMessages : List (Nat × Nat)
  deriving DecidableEq

/-- The context of a request for the statistics. -/
def viewTenant (request : AnalyticsRequest) : Tenant :=
  processView
    { user := request.sessionUser, xBotId := request.xBotId, botIdParam := request.botIdParam }
    { viewClass := some "AnalyticsView"
      kwargs := [("chatbot_id", request.chatbotId.repr)] }

/-- `chatbot=chatbot, is_preview=False`. -/
def isLive (chatbot : Nat) (c : Conversation) : Bool :=
  c.chatbot = chatbot && !c.isPreview

/-- The four queries over the conversations and the messages that the managers return. -/
def analyticsData (db : Database) (chatbot : Nat) (conversations : List Conversation)
    (messages : List Message) : AnalyticsData :=
  let live := conversations.filter (isLive chatbot)
  let counted := messages.filter (isCounted db chatbot)
  { totalConversations := live.length
    totalMessages := counted.length
    uniqueVisitors := (live.map Conversation.visitor).dedup.length
    dailyMessages := groupCounts (fun m => dateOf m.createdAt) counted }

/-- `AnalyticsView.get`. -/
def analyticsView (db : Database) (request : AnalyticsRequest) : Except Nat AnalyticsData :=
  match findChatbot db (viewTenant request) request.chatbotId request.jwtUser.id with
  | .error status => .error status
  | .ok bot =>
      match getQueryset db conversationModel (viewTenant request) db.conversations.rows,
        getQueryset db messageModel (viewTenant request) db.messages.rows with
      | some conversations, some messages =>
          .ok (analyticsData db bot.id conversations messages)
      | _, _ => .error 500

theorem analyticsView_eq_ok {db : Database} {request : AnalyticsRequest}
    {data : AnalyticsData} (h : analyticsView db request = .ok data) :
    data = analyticsData db request.chatbotId db.conversations.rows db.messages.rows := by
  unfold analyticsView at h
  split at h
  · cases h
  · rename_i bot hbot
    obtain ⟨hformed, -, hid, -, hshows⟩ := findChatbot_eq_ok hbot
    have hconversations : FollowsChatbot db conversationModel db.conversations.rows
        fun c => some c.chatbot := followsChatbot_of_chatbot _ _ _ (by decide) rfl rfl rfl
    rw [getQueryset_eq hconversations, getQueryset_eq (followsChatbot_message _ _)] at h
    simp only [hformed, Bool.false_eq_true, if_false, Except.ok.injEq] at h
    subst h
    rw [hid] at hshows ⊢
    unfold analyticsData
    have hlive : ((db.conversations.rows.filter fun c =>
        decide (Shows db (viewTenant request) (some c.chatbot))).filter
          (isLive request.chatbotId)) =
        db.conversations.rows.filter (isLive request.chatbotId) := by
      rw [List.filter_filter]
      refine List.filter_congr fun c _ => ?_
      by_cases hbot : c.chatbot = request.chatbotId
      · simp [hbot, hshows]
      · simp [isLive, hbot]
    have hcounted : ((db.messages.rows.filter fun m =>
        decide (Shows db (viewTenant request)
          ((db.conversations.get? m.conversation).map Conversation.chatbot))).filter
            (isCounted db request.chatbotId)) =
        db.messages.rows.filter (isCounted db request.chatbotId) := by
      rw [List.filter_filter]
      refine List.filter_congr fun m _ => ?_
      cases hc : db.conversations.get? m.conversation with
      | none => simp [isCounted, hc]
      | some c =>
          by_cases hbot : c.chatbot = request.chatbotId
          · simp [hbot, hshows]
          · simp [isCounted, hc, hbot]
    rw [hlive, hcounted]

theorem Linked.visitor_eq_iff {db : Database} (h : Linked db) {c d : Conversation}
    (hc : c ∈ db.conversations.rows) (hd : d ∈ db.conversations.rows) :
    c.visitor = d.visitor ↔ c.visitorIdentifier = d.visitorIdentifier := by
  obtain ⟨v, hv, hcv, hvc⟩ := h.conversations c hc
  obtain ⟨w, hw, hdw, hwd⟩ := h.conversations d hd
  rw [hcv, hdw, ← hvc, ← hwd]
  constructor
  · intro hkey
    rw [db.visitors.eq_of_key_eq hv hw (Option.some.inj hkey)]
  · intro hsame
    rw [h.unique v hv w hw hsame]

/-- The identifiers of the visitors who talked to the chatbot outside of previews, one for
each of their conversations. -/
def liveIdentifiers (db : Database) (chatbot : Nat) : List String :=
  (db.conversations.rows.filter (isLive chatbot)).map Conversation.visitorIdentifier

theorem Linked.uniqueVisitors {db : Database} (h : Linked db) (chatbot : Nat) :
    ((db.conversations.rows.filter (isLive chatbot)).map Conversation.visitor).dedup.length =
      (liveIdentifiers db chatbot).dedup.length := by
  apply length_dedup_map_congr
  intro c hc d hd
  exact h.visitor_eq_iff (List.mem_of_mem_filter hc) (List.mem_of_mem_filter hd)

variable {ι : Type} [DecidableEq ι]

/-- After any interleaving of calls, an owner who is answered is shown coherent numbers:
the unique visitors are the distinct identifiers of the live conversations, as many as the
conversations exactly where no visitor has two of them, and the days, in order, partition
the messages as the daily aggregation does. -/
theorem statistics_coherent {repr : Json → String} {start c : Config ι Database ChatProcess}
    (hlinked : Linked start.shared)
    (hwaiting : ∀ i, (start.locals i).progress = .waiting)
    (hrun : Reaches (step repr) anyStep start c) {request : AnalyticsRequest}
    {data : AnalyticsData} (hview : analyticsView c.shared request = .ok data) :
    data.uniqueVisitors = (liveIdentifiers c.shared request.chatbotId).dedup.length ∧
      data.uniqueVisitors ≤ data.totalConversations ∧
      (data.uniqueVisitors = data.totalConversations ↔
        (liveIdentifiers c.shared request.chatbotId).Nodup) ∧
      (data.dailyMessages.map Prod.snd).sum = data.totalMessages ∧
      (data.dailyMessages.map Prod.fst).Pairwise (· < ·) ∧
      ∀ date count, (date, count) ∈ data.dailyMessages ↔
        count = (dailyMessages c.shared request.chatbotId date).length ∧ 0 < count := by
  have hunique := (linked_of_reaches hlinked hwaiting hrun).uniqueVisitors request.chatbotId
  have hlength : (liveIdentifiers c.shared request.chatbotId).length =
      (c.shared.conversations.rows.filter (isLive request.chatbotId)).length :=
    List.length_map _
  rw [analyticsView_eq_ok hview]
  refine ⟨hunique, ?_, ?_, sum_groupCounts _ _, pairwise_groupCounts _ _, ?_⟩
  · exact hunique.trans_le ((List.dedup_sublist _).length_le.trans_eq hlength)
  · rw [← length_dedup_eq_iff, hlength, ← hunique]
    rfl
  · intro date count
    refine mem_groupCounts.trans ?_
    rw [dailyMessages, List.filter_filter]
    simp only [Bool.and_comm]

theorem threeCalls_statistics :
    ∃ c data, Reaches (step noRepr) anyStep threeCalls c ∧
      analyticsView c.shared ownerRequest = .ok data ∧ data.totalConversations = 2 ∧
      data.uniqueVisitors = (liveIdentifiers c.shared 1).dedup.length := by
  obtain ⟨c, hrun, hdata⟩ : ∃ c, Reaches (step noRepr) anyStep threeCalls c ∧
      ((analyticsView c.shared ownerRequest).toOption.map
        AnalyticsData.totalConversations) = some 2 :=
    exists_reaches_of_replay
      [(0, ()), (0, ()), (1, ()), (0, ()), (1, ()), (0, ()), (1, ())] (by decide +kernel)
  cases hview : analyticsView c.shared ownerRequest with
  | error status =>
      rw [hview] at hdata
      cases hdata
  | ok data =>
      rw [hview] at hdata
      have hlinked : Linked threeCalls.shared := linked_of_nil rfl rfl
      exact ⟨c, data, hrun, hview, Option.some.inj hdata,
        (statistics_coherent hlinked (fun _ => rfl) hrun hview).1⟩

end View

end Botman.ChatStatistics
