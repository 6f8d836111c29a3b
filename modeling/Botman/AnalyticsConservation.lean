import Mathlib.Order.Interval.Finset.Nat
import Mathlib.Algebra.BigOperators.Intervals
import Botman.Library.GroupedSums
import Botman.Library.Transition
import Botman.AnalyticsGraph

/-!
The totals of the overview over every history of messages, runs of
`aggregate_daily_analytics` and requests.

A run of the task settles a day until a message of that day changes.  The
totals of a settled day are in its rows, so the overview that is computed when
all past days are settled reports the messages of the thirty days.
-/

namespace Botman.AnalyticsConservation

open Botman.Library.KeyedTable
open Botman.Library.Transition
open Botman.Library.GroupedSums
open Botman.DataModel
open Botman.PreviewAnalytics
open Botman.AnalyticsTask
open Botman.AnalyticsApi
open Botman.AnalyticsGraph

/-- The non-preview messages of a day, each with its chatbot. -/
def dayMessages (db : Database) (date : Nat) : List (Nat × Message) :=
  db.messages.rows.filterMap fun m =>
    (db.conversations.get? m.conversation).bind fun c =>
      if !c.isPreview && dateOf m.createdAt = date then some (c.chatbot, m) else none

theorem dailyMessages_eq (db : Database) (chatbot date : Nat) :
    dailyMessages db chatbot date =
      ((dayMessages db date).filter fun entry => entry.1 = chatbot).map Prod.snd := by
  unfold dailyMessages dayMessages
  induction db.messages.rows with
  | nil => rfl
  | cons m rest ih =>
      rw [List.filter_cons, List.filterMap_cons, ih]
      cases hc : db.conversations.get? m.conversation with
      | none => simp [isCounted, hc]
      | some c =>
          by_cases hkept : (!c.isPreview && decide (dateOf m.createdAt = date)) = true
          · by_cases hbot : c.chatbot = chatbot
            · simp_all [isCounted]
            · simp_all [isCounted]
          · simp only [isCounted, hc, Option.any_some, Option.bind_some, hkept]
            simp only [Bool.and_eq_true, not_and] at hkept
            by_cases hbot : c.chatbot = chatbot
            · simp_all
            · simp_all

/-- The foreign keys of conversations. -/
def RefersToChatbots (db : Database) : Prop :=
  ∀ c ∈ db.conversations.rows, c.chatbot ∈ db.chatbots.rows.map Chatbot.id

instance (db : Database) : Decidable (RefersToChatbots db) :=
  inferInstanceAs (Decidable (∀ c ∈ db.conversations.rows, _))

theorem dailyMessages_of_missing {db : Database} (h : RefersToChatbots db) {chatbot : Nat}
    (hmissing : chatbot ∉ db.chatbots.rows.map Chatbot.id) (date : Nat) :
    dailyMessages db chatbot date = [] := by
  refine List.filter_eq_nil_iff.mpr fun m _ hm => ?_
  obtain ⟨hcounted, -⟩ := Bool.and_eq_true_iff.mp hm
  obtain ⟨c, hc, htest⟩ := (Option.any_eq_true _ _).mp hcounted
  obtain ⟨hbot, -⟩ := Bool.and_eq_true_iff.mp htest
  have hmem := ((db.conversations.get?_eq_some_iff).mp hc).1
  exact hmissing (of_decide_eq_true hbot ▸ h c hmem)

/-- Any change of the tables that the analytics read; the rows of deleted
chatbots go with them. -/
def changeStore (store : Store) (db : Database) (sessions : Table Session) : Store where
  toDatabase := db
  sessions := sessions
  dailyAnalytics := store.dailyAnalytics.delete fun r =>
    !decide (r.chatbot ∈ db.chatbots.rows.map Chatbot.id)
  telegramIntegrations := store.telegramIntegrations.delete fun r =>
    !decide (r.chatbot ∈ db.chatbots.rows.map Chatbot.id)
  dailyUnique := fun r hr s hs =>
    store.dailyUnique r ((Table.mem_delete _ _ r).mp hr).1 s ((Table.mem_delete _ _ s).mp hs).1

theorem dailyRow?_changeStore {store : Store} {db : Database} {sessions : Table Session}
    {chatbot : Nat} (h : chatbot ∈ db.chatbots.rows.map Chatbot.id) (date : Nat) :
    dailyRow? (changeStore store db sessions) chatbot date = dailyRow? store chatbot date := by
  ext r
  rw [dailyRow?_eq_some_iff, dailyRow?_eq_some_iff]
  refine and_congr_left fun hr => ?_
  refine (Table.mem_delete _ _ r).trans (and_iff_left ?_)
  rw [hr.1]
  simpa using h

theorem rows_changeStore (store : Store) (db : Database) (sessions : Table Session) :
    ∀ r ∈ (changeStore store db sessions).dailyAnalytics.rows,
      r.chatbot ∈ db.chatbots.rows.map Chatbot.id := by
  intro r hr
  have hkept := ((Table.mem_delete _ _ r).mp hr).2
  simpa using hkept

/-- The system: the tables, the cache, the clock, and the days that were
aggregated after their messages last changed. -/
structure World where
  store : Store
  cache : Cache
  now : Nat
  settled : List Nat

/-- What can happen: other requests change the tables, time passes, the task runs for
a day, or an overview is asked for. -/
inductive Event where
  | change (db : Database) (sessions : Table Session)
  | wait (time : Nat)
  | aggregate (dateStr : Option Nat)
  | overview (request : AnalyticsRequest)

/-- One event.  A day is settled by a run of the task, until its messages change. -/
def next (w : World) : Event → Option World
  | .change db sessions =>
      if RefersToChatbots db then
        some
          { w with
            store := changeStore w.store db sessions
            settled := w.settled.filter fun date =>
              dayMessages db date = dayMessages w.store.toDatabase date }
      else none
  | .wait time => some { w with now := w.now + time }
  | .aggregate dateStr =>
      let date := targetDate dateStr w.now
      some
        { w with
          store := aggregateDailyAnalytics w.store date
          settled := date :: w.settled }
  | .overview request =>
      some { w with cache := (overviewView w.store w.cache request w.now).1 }

/-- The number of messages and the sum of their tokens. -/
def messageTotals (messages : List Message) : Nat × Int :=
  (messages.length, sumTokens messages)

/-- The two columns that are sums over messages. -/
def rowTotals (r : BotAnalyticsDaily) : Nat × Int :=
  (r.totalMessages, r.totalTokens)

/-- What the row of a day contributes to the overview, which is nothing without a
row. -/
def storedTotals (store : Store) (chatbot date : Nat) : Nat × Int :=
  ((dailyRow? store chatbot date).map rowTotals).getD 0

/-- The rows of a day hold the totals of its messages, for every chatbot. -/
def ExactDay (store : Store) (date : Nat) : Prop :=
  ∀ chatbot, storedTotals store chatbot date =
    messageTotals (dailyMessages store.toDatabase chatbot date)

theorem storedTotals_of_missing {store : Store} {chatbot : Nat}
    (hrows : ∀ r ∈ store.dailyAnalytics.rows, r.chatbot ∈ store.chatbots.rows.map Chatbot.id)
    (hmissing : chatbot ∉ store.chatbots.rows.map Chatbot.id) (date : Nat) :
    storedTotals store chatbot date = 0 := by
  have hnone : dailyRow? store chatbot date = none :=
    (dailyRow?_eq_none_iff store).mpr fun r hr h => hmissing (h.1 ▸ hrows r hr)
  simp [storedTotals, hnone]

/-- What holds in every state: the foreign keys, and the totals of the settled
days. -/
structure Consistent (w : World) : Prop where
  refers : RefersToChatbots w.store.toDatabase
  rows : ∀ r ∈ w.store.dailyAnalytics.rows, r.chatbot ∈ w.store.chatbots.rows.map Chatbot.id
  exact : ∀ date ∈ w.settled, ExactDay w.store date

section Steps

variable {w : World}

theorem rows_aggregate {store : Store} (date : Nat)
    (hrows : ∀ r ∈ store.dailyAnalytics.rows, r.chatbot ∈ store.chatbots.rows.map Chatbot.id) :
    ∀ r ∈ (aggregateDailyAnalytics store date).dailyAnalytics.rows,
      r.chatbot ∈ store.chatbots.rows.map Chatbot.id := by
  intro r hr
  by_contra hmissing
  -- the row of a chatbot that does not exist is none that the run wrote
  have hrow : dailyRow? (aggregateDailyAnalytics store date) r.chatbot r.date = some r :=
    (dailyRow?_eq_some_iff _).mpr ⟨hr, rfl, rfl⟩
  have hunwritten : ∀ bot ∈ store.chatbots.rows, bot.id ≠ r.chatbot := fun bot hbot hid =>
    hmissing (List.mem_map.mpr ⟨bot, hbot, hid⟩)
  rw [dailyRow?_aggregate_of_ne store (Or.inr hunwritten)] at hrow
  exact hmissing (hrows r ((dailyRow?_eq_some_iff _).mp hrow).1)

theorem exactDay_aggregate {store : Store} (date : Nat) (hrefers : RefersToChatbots store.toDatabase)
    (hrows : ∀ r ∈ store.dailyAnalytics.rows, r.chatbot ∈ store.chatbots.rows.map Chatbot.id) :
    ExactDay (aggregateDailyAnalytics store date) date := by
  intro chatbot
  have hsources := sameSources_aggregate store date
  by_cases hbot : chatbot ∈ store.chatbots.rows.map Chatbot.id
  · obtain ⟨r, hrow, hstats⟩ := dailyRow?_aggregate_self store date (List.mem_map.mp hbot)
    have hmessages := totalMessages_dailyStats store chatbot date
    have htokens := totalTokens_dailyStats store chatbot date
    rw [← hstats] at hmessages htokens
    rw [storedTotals, hrow, hsources.database]
    exact Prod.ext hmessages htokens
  · have hrows' : ∀ r ∈ (aggregateDailyAnalytics store date).dailyAnalytics.rows,
        r.chatbot ∈ (aggregateDailyAnalytics store date).chatbots.rows.map Chatbot.id := by
      rw [hsources.database]
      exact rows_aggregate date hrows
    rw [storedTotals_of_missing hrows' (by rw [hsources.database]; exact hbot),
      hsources.database, dailyMessages_of_missing hrefers hbot]
    rfl

theorem consistent_aggregate (h : Consistent w) (date : Nat) :
    Consistent { w with
      store := aggregateDailyAnalytics w.store date
      settled := date :: w.settled } where
  refers := by
    change RefersToChatbots (aggregateDailyAnalytics w.store date).toDatabase
    rw [(sameSources_aggregate w.store date).database]
    exact h.refers
  rows := by
    change ∀ r ∈ (aggregateDailyAnalytics w.store date).dailyAnalytics.rows,
      r.chatbot ∈ (aggregateDailyAnalytics w.store date).chatbots.rows.map Chatbot.id
    rw [(sameSources_aggregate w.store date).database]
    exact rows_aggregate date h.rows
  exact := by
    intro d hd
    by_cases hsame : d = date
    · subst hsame
      exact exactDay_aggregate d h.refers h.rows
    · rcases List.mem_cons.mp hd with rfl | hd
      · exact absurd rfl hsame
      · intro chatbot
        have hold := h.exact d hd chatbot
        change storedTotals (aggregateDailyAnalytics w.store date) chatbot d =
          messageTotals (dailyMessages (aggregateDailyAnalytics w.store date).toDatabase chatbot d)
        rw [storedTotals, dailyRow?_aggregate_of_ne w.store (Or.inl hsame),
          (sameSources_aggregate w.store date).database]
        exact hold

theorem consistent_change (h : Consistent w) {db : Database} (sessions : Table Session)
    (hrefers : RefersToChatbots db) :
    Consistent { w with
      store := changeStore w.store db sessions
      settled := w.settled.filter fun date =>
        dayMessages db date = dayMessages w.store.toDatabase date } where
  refers := hrefers
  rows := rows_changeStore w.store db sessions
  exact := by
    intro date hdate chatbot
    obtain ⟨hsettled, hsame⟩ := List.mem_filter.mp hdate
    have hold := h.exact date hsettled chatbot
    rw [dailyMessages_eq, ← of_decide_eq_true hsame, ← dailyMessages_eq] at hold
    by_cases hbot : chatbot ∈ db.chatbots.rows.map Chatbot.id
    · change storedTotals (changeStore w.store db sessions) chatbot date =
        messageTotals (dailyMessages db chatbot date)
      rw [← hold, storedTotals, storedTotals, dailyRow?_changeStore hbot]
    · have hmessages := dailyMessages_of_missing hrefers hbot date
      change storedTotals (changeStore w.store db sessions) chatbot date =
        messageTotals (dailyMessages db chatbot date)
      rw [hmessages, storedTotals_of_missing (rows_changeStore w.store db sessions) hbot]
      rfl

theorem consistent_next {event : Event} {t : World} (h : Consistent w)
    (hnext : next w event = some t) : Consistent t := by
  cases event with
  | change db sessions =>
      simp only [next] at hnext
      split at hnext
      · rename_i hrefers
        cases hnext
        exact consistent_change h sessions hrefers
      · cases hnext
  | wait time =>
      cases hnext
      exact ⟨h.refers, h.rows, h.exact⟩
  | aggregate dateStr =>
      cases hnext
      exact consistent_aggregate h _
  | overview request =>
      cases hnext
      exact ⟨h.refers, h.rows, h.exact⟩

end Steps

section Totals

theorem messageTotals_eq_sum (messages : List Message) :
    messageTotals messages = (messages.map fun m => ((1, m.tokenUsage) : Nat × Int)).sum := by
  induction messages with
  | nil => rfl
  | cons m rest ih =>
      rw [List.map_cons, List.sum_cons, ← ih]
      refine Prod.ext ?_ ?_
      · simp [messageTotals, Nat.add_comm]
      · simp [messageTotals, sumTokens]

theorem sum_map_rowTotals (rows : List BotAnalyticsDaily) :
    (rows.map rowTotals).sum =
      ((rows.map fun r => r.totalMessages).sum, (rows.map fun r => r.totalTokens).sum) := by
  induction rows with
  | nil => rfl
  | cons r rest ih =>
      rw [List.map_cons, List.sum_cons, ih]
      simp [rowTotals]

/-- The messages of the last thirty days that are no previews. -/
def windowMessages (db : Database) (chatbot today : Nat) : List Message :=
  db.messages.rows.filter fun m =>
    isCounted db chatbot m &&
      (today ≤ dateOf m.createdAt + 29 && dateOf m.createdAt ≤ today)

theorem messageTotals_dailyMessages (db : Database) (chatbot date : Nat) :
    messageTotals (dailyMessages db chatbot date) =
      (((countedMessages db chatbot).filter fun m => dateOf m.createdAt = date).map
        fun m => ((1, m.tokenUsage) : Nat × Int)).sum := by
  rw [messageTotals_eq_sum, countedMessages, List.filter_filter, dailyMessages]
  simp only [Bool.and_comm]

theorem messageTotals_windowMessages (db : Database) (chatbot today : Nat) :
    messageTotals (windowMessages db chatbot today) =
      ∑ date ∈ Finset.Icc (today - 29) today,
        messageTotals (dailyMessages db chatbot date) := by
  rw [Finset.sum_congr rfl fun date _ => messageTotals_dailyMessages db chatbot date,
    ← sum_map_filter_mem, messageTotals_eq_sum, countedMessages, List.filter_filter,
    windowMessages]
  refine congrArg (fun rows => (List.map _ rows).sum) (List.filter_congr fun m _ => ?_)
  rw [Bool.and_comm, ← Bool.decide_and]
  refine congrArg (· && isCounted db chatbot m) (decide_eq_decide.mpr ?_)
  rw [Finset.mem_Icc]
  omega

theorem sum_group (store : Store) (chatbot date : Nat) :
    (((store.dailyAnalytics.rows.filter fun r => r.chatbot = chatbot).filter
      fun r => r.date = date).map rowTotals).sum = storedTotals store chatbot date := by
  have hrows := filter_isFor store chatbot date
  rw [List.filter_filter, storedTotals]
  have hgroup : (store.dailyAnalytics.rows.filter fun r =>
      decide (r.date = date) && decide (r.chatbot = chatbot)) =
      (dailyRow? store chatbot date).toList := by
    rw [← hrows]
    refine List.filter_congr fun r _ => ?_
    rw [BotAnalyticsDaily.isFor, Bool.and_comm]
  rw [hgroup]
  cases dailyRow? store chatbot date with
  | none => rfl
  | some r => simp

theorem sum_dailyStatsOf (store : Store) (chatbot today : Nat) :
    ((dailyStatsOf store chatbot today).map rowTotals).sum =
      ∑ date ∈ Finset.Ico (today - 29) today, storedTotals store chatbot date := by
  rw [Finset.sum_congr rfl fun date _ => (sum_group store chatbot date).symm,
    ← sum_map_filter_mem, List.filter_filter, dailyStatsOf]
  refine congrArg (fun rows => (List.map _ rows).sum) (List.filter_congr fun r _ => ?_)
  rw [Bool.and_comm, isPastDay, ← Bool.decide_and]
  refine congrArg (· && decide (r.chatbot = chatbot)) (decide_eq_decide.mpr ?_)
  rw [Finset.mem_Ico]
  omega

theorem totals_overviewData {store : Store} {today : Nat} (chatbot sessions : Nat)
    (hexact : ∀ date, isPastDay today date = true → ExactDay store date) :
    let data := overviewData (dailyStatsOf store chatbot today)
      (todayMessages store.toDatabase chatbot today false) sessions
    (data.totalMessages, data.totalTokens) =
      messageTotals (windowMessages store.toDatabase chatbot today) := by
  have hpast : ∀ date ∈ Finset.Ico (today - 29) today, storedTotals store chatbot date =
      messageTotals (dailyMessages store.toDatabase chatbot date) := by
    intro date hdate
    rw [Finset.mem_Ico] at hdate
    refine hexact date ?_ chatbot
    simp only [isPastDay, Bool.and_eq_true, decide_eq_true_eq]
    omega
  have hhistory := sum_dailyStatsOf store chatbot today
  rw [Finset.sum_congr rfl hpast, sum_map_rowTotals] at hhistory
  rw [messageTotals_windowMessages, ← Finset.Ico_insert_right (Nat.sub_le today 29),
    Finset.sum_insert Finset.right_notMem_Ico, ← hhistory, todayMessages_false, add_comm]
  rfl

end Totals

/-- All days before today that the overview covers are settled. -/
def AllSettled (w : World) : Prop :=
  ∀ date, isPastDay (dateOf w.now) date = true → date ∈ w.settled

/-- The totals of the messages that a chatbot has in the last thirty days. -/
def IsExact (w : World) (chatbot : Nat) (data : OverviewData) : Prop :=
  data.totalMessages =
      (windowMessages w.store.toDatabase chatbot (dateOf w.now)).length ∧
    data.totalTokens =
      sumTokens (windowMessages w.store.toDatabase chatbot (dateOf w.now))

theorem isExact_of_overview {w : World} (h : Consistent w) (hsettled : AllSettled w)
    {request : AnalyticsRequest} (hpreview : request.includePreview = false)
    {data : OverviewData} (hdata : overview w.store request w.now = .ok data) :
    IsExact w request.chatbotId data := by
  have htotals := totals_overviewData request.chatbotId
    (todaySessions w.store request.chatbotId (dateOf w.now) false)
    fun date hdate => h.exact date (hsettled date hdate)
  have hdata := overview_eq_ok hdata
  rw [hpreview] at hdata
  subst hdata
  exact Prod.ext_iff.mp htotals

section Cached

/-- The data are what the view computes in an earlier state of the run, for a request with
the key. -/
structure ComputedIn (start w : World) (key : CacheKey) (data : OverviewData)
    (before : World) : Prop where
  reached : Reaches next anyStep start before
  rest : Reaches next anyStep before w
  computed : ∃ earlier : AnalyticsRequest, earlier.cacheKey = key ∧
    overview before.store earlier before.now = .ok data

/-- Every entry of the cache was computed in a state of the run, five minutes before
it expires. -/
def FromRun (start w : World) : Prop :=
  ∀ entry ∈ w.cache, ∃ before, ComputedIn start w entry.key entry.data before ∧
    entry.expires = before.now + cacheTimeout

variable {start w t : World}

theorem ComputedIn.step {key : CacheKey} {data : OverviewData} {before : World}
    (h : ComputedIn start w key data before) (hstep : StepBy next anyStep w t) :
    ComputedIn start t key data before :=
  ⟨h.reached, h.rest.tail hstep, h.computed⟩

theorem fromRun_of_step (h : FromRun start w) (hstep : StepBy next anyStep w t)
    (hcache : t.cache = w.cache) : FromRun start t := by
  intro entry hentry
  rw [hcache] at hentry
  obtain ⟨before, hcomputed, hexpires⟩ := h entry hentry
  exact ⟨before, hcomputed.step hstep, hexpires⟩

theorem cacheGet_eq_some {cache : Cache} {key : CacheKey} {now : Nat} {data : OverviewData}
    (h : cacheGet cache key now = some data) :
    ∃ entry ∈ cache, entry.key = key ∧ entry.data = data ∧ now < entry.expires := by
  obtain ⟨entry, hfind, hentry⟩ := Option.bind_eq_some_iff.mp h
  split at hentry
  · rename_i hlive
    cases hentry
    have hkey := List.find?_some hfind
    exact ⟨entry, List.mem_of_find?_eq_some hfind, of_decide_eq_true hkey, rfl, hlive⟩
  · cases hentry

theorem overviewView_cases (store : Store) (cache : Cache) (request : AnalyticsRequest)
    (now : Nat) :
    (overviewView store cache request now).1 = cache ∨
      cacheGet cache request.cacheKey now = none ∧ ∃ data,
        overview store request now = .ok data ∧
        (overviewView store cache request now).1 =
          { key := request.cacheKey, data := data, expires := now + cacheTimeout } :: cache := by
  unfold overviewView
  cases hget : cacheGet cache request.cacheKey now with
  | some data => exact Or.inl rfl
  | none =>
      cases hdata : overview store request now with
      | error status => exact Or.inl rfl
      | ok data => exact Or.inr ⟨rfl, data, rfl, rfl⟩

theorem fromRun_next {event : Event} (hreach : Reaches next anyStep start w)
    (h : FromRun start w) (hnext : next w event = some t) :
    FromRun start t := by
  have hstep : StepBy next anyStep w t := ⟨event, trivial, hnext⟩
  cases event with
  | change db sessions =>
      simp only [next] at hnext
      split at hnext
      · cases hnext
        exact fromRun_of_step h hstep rfl
      · cases hnext
  | wait time =>
      cases hnext
      exact fromRun_of_step h hstep rfl
  | aggregate dateStr =>
      cases hnext
      exact fromRun_of_step h hstep rfl
  | overview request =>
      cases hnext
      rcases overviewView_cases w.store w.cache request w.now with hsame | ⟨-, data, hdata, hnew⟩
      · exact fromRun_of_step h hstep hsame
      · intro entry hentry
        change entry ∈ (overviewView w.store w.cache request w.now).1 at hentry
        rw [hnew] at hentry
        rcases List.mem_cons.mp hentry with rfl | hold
        · exact ⟨w, ⟨hreach, .single hstep, request, rfl, hdata⟩, rfl⟩
        · obtain ⟨before, hcomputed, hexpires⟩ := h entry hold
          exact ⟨before, hcomputed.step hstep, hexpires⟩

/-- The start: no day is settled and nothing is cached. -/
structure Starts (w : World) : Prop where
  refers : RefersToChatbots w.store.toDatabase
  rows : ∀ r ∈ w.store.dailyAnalytics.rows, r.chatbot ∈ w.store.chatbots.rows.map Chatbot.id
  settled : w.settled = []
  cache : w.cache = []

theorem consistent_of_run (hstart : Starts start) (hrun : Reaches next anyStep start w) :
    Consistent w := by
  refine invariant_of_reaches Consistent (fun _ _ _ h _ hnext => consistent_next h hnext) ?_ hrun
  exact ⟨hstart.refers, hstart.rows, by simp [hstart.settled]⟩

theorem fromRun_of_run (hstart : Starts start) (hrun : Reaches next anyStep start w) :
    FromRun start w := by
  refine (invariant_of_reaches
    (fun w => Reaches next anyStep start w ∧ FromRun start w) ?_ ?_ hrun).2
  · rintro w event t ⟨hreach, hcache⟩ hguard hnext
    exact ⟨hreach.tail ⟨event, hguard, hnext⟩, fromRun_next hreach hcache hnext⟩
  · exact ⟨.refl, by simp [FromRun, hstart.cache]⟩

theorem computedIn_of_overviewView (hstart : Starts start) (hrun : Reaches next anyStep start w)
    {request : AnalyticsRequest} {data : OverviewData}
    (hdata : (overviewView w.store w.cache request w.now).2 = .ok data) :
    ∃ before, ComputedIn start w request.cacheKey data before ∧
      w.now < before.now + cacheTimeout ∧
      (cacheGet w.cache request.cacheKey w.now = none → before = w) := by
  unfold overviewView at hdata
  cases hget : cacheGet w.cache request.cacheKey w.now with
  | some cached =>
      rw [hget] at hdata
      cases hdata
      obtain ⟨entry, hentry, hkey, rfl, hlive⟩ := cacheGet_eq_some hget
      obtain ⟨before, hcomputed, hexpires⟩ := fromRun_of_run hstart hrun entry hentry
      rw [hkey] at hcomputed
      exact ⟨before, hcomputed, hexpires ▸ hlive, fun hnone => by cases hnone⟩
  | none =>
      rw [hget] at hdata
      cases hcomputed : overview w.store request w.now with
      | error status =>
          rw [hcomputed] at hdata
          cases hdata
      | ok computed =>
          rw [hcomputed] at hdata
          cases hdata
          exact ⟨w, ⟨hrun, .refl, request, rfl, hcomputed⟩,
            Nat.lt_add_of_pos_right (by decide), fun _ => rfl⟩

/-- The overview is the one of a state of the last five minutes, exact
if the past days were settled in it; where nothing is cached, of this state. -/
theorem overview_reports (hstart : Starts start) (hrun : Reaches next anyStep start w)
    {request : AnalyticsRequest} (hpreview : request.includePreview = false)
    {data : OverviewData}
    (hdata : (overviewView w.store w.cache request w.now).2 = .ok data) :
    ∃ before, ComputedIn start w request.cacheKey data before ∧
      w.now < before.now + cacheTimeout ∧
      (cacheGet w.cache request.cacheKey w.now = none → before = w) ∧
      (AllSettled before → IsExact before request.chatbotId data) := by
  obtain ⟨before, hbefore, hlive, hsame⟩ := computedIn_of_overviewView hstart hrun hdata
  refine ⟨before, hbefore, hlive, hsame, fun hsettled => ?_⟩
  obtain ⟨earlier, hkey, hcomputed⟩ := hbefore.computed
  have hbot : earlier.chatbotId = request.chatbotId := congrArg CacheKey.chatbotId hkey
  have hflag : earlier.includePreview = false :=
    (congrArg CacheKey.includePreview hkey).trans hpreview
  rw [← hbot]
  exact isExact_of_overview (consistent_of_run hstart hbefore.reached) hsettled hflag hcomputed

end Cached

/-- Noon of the thirtieth day of the epoch. -/
def lastNoon : Nat := 2548800000000

/-- One answer on the second day, and nothing aggregated. -/
def quietStart : World where
  store := dayStore [answerRow]
  cache := []
  now := lastNoon
  settled := []

def allDays : List Event :=
  (List.range 29).map fun date => .aggregate (some date)

/-- A question on the last day. -/
def newQuestion : Event :=
  .change (dayStore [answerRow, { questionRow with createdAt := lastNoon }]).toDatabase .empty

theorem starts_quietStart : Starts quietStart where
  refers := by decide
  rows := by simp [quietStart, dayStore, Store.empty, Table.empty]
  settled := rfl
  cache := rfl

theorem allSettled_of_lastNoon {w : World} (hnow : w.now = lastNoon)
    (hdays : ∀ date ∈ List.range 29, date ∈ w.settled) : AllSettled w := by
  intro date hdate
  rw [hnow] at hdate
  have hlast : dateOf lastNoon = 29 := by decide
  simp only [isPastDay, hlast, Bool.and_eq_true, decide_eq_true_eq] at hdate
  exact hdays date (List.mem_range.mpr (by omega))

/-- The totals that the overview reports to the owner. -/
def reportedMessages (w : World) : Option Nat :=
  match (overviewView w.store w.cache ownerRequest w.now).2 with
  | .error _ => none
  | .ok data => some data.totalMessages

theorem exists_of_reportedMessages {w : World} {total : Nat}
    (h : reportedMessages w = some total) :
    ∃ data, (overviewView w.store w.cache ownerRequest w.now).2 = .ok data ∧
      data.totalMessages = total := by
  unfold reportedMessages at h
  split at h
  · cases h
  · rename_i data hdata
    cases h
    exact ⟨data, hdata, rfl⟩

theorem settledDays_reported :
    ∃ w data, Reaches next anyStep quietStart w ∧ AllSettled w ∧
      (overviewView w.store w.cache ownerRequest w.now).2 = .ok data ∧
      IsExact w ownerRequest.chatbotId data ∧ data.totalMessages = 1 := by
  have hexists : ∃ w, Reaches next anyStep quietStart w ∧ w.now = lastNoon ∧
      (∀ date ∈ List.range 29, date ∈ w.settled) ∧ reportedMessages w = some 1 ∧
      cacheGet w.cache ownerRequest.cacheKey w.now = none :=
    exists_reaches_of_replay allDays (by decide +kernel)
  obtain ⟨w, hrun, hnow, hdays, hreported, hget⟩ := hexists
  obtain ⟨data, hdata, htotal⟩ := exists_of_reportedMessages hreported
  have hsettled := allSettled_of_lastNoon hnow hdays
  obtain ⟨before, -, -, hsame, hexact⟩ :=
    overview_reports starts_quietStart hrun (by decide) hdata
  obtain rfl := hsame hget
  exact ⟨before, data, hrun, hsettled, hdata, hexact hsettled, htotal⟩

/-- After the question the overview of before it is shown. -/
theorem stale_overview :
    ∃ w data, Reaches next anyStep quietStart w ∧ AllSettled w ∧
      ownerRequest.includePreview = false ∧
      (overviewView w.store w.cache ownerRequest w.now).2 = .ok data ∧
      ¬ IsExact w ownerRequest.chatbotId data := by
  have hexists : ∃ w, Reaches next anyStep quietStart w ∧ w.now = lastNoon ∧
      (∀ date ∈ List.range 29, date ∈ w.settled) ∧ reportedMessages w = some 1 ∧
      (windowMessages w.store.toDatabase ownerRequest.chatbotId (dateOf w.now)).length = 2 :=
    exists_reaches_of_replay (allDays ++ [.overview ownerRequest, newQuestion])
      (by decide +kernel)
  obtain ⟨w, hrun, hnow, hdays, hreported, hwindow⟩ := hexists
  obtain ⟨data, hdata, htotal⟩ := exists_of_reportedMessages hreported
  refine ⟨w, data, hrun, allSettled_of_lastNoon hnow hdays, by decide, hdata, fun hexact => ?_⟩
  have hsame := hexact.1
  rw [htotal, hwindow] at hsame
  cases hsame

end Botman.AnalyticsConservation
