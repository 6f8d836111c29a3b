import Mathlib.Order.Bounds.Basic
import Botman.Library.Means
import Botman.AnalyticsConservation

/-!
Two readings of the numbers of `AnalyticsOverviewView`: what the flag
`include_preview` adds to the messages, and how the reported latency compares
with the latencies of the messages.

The stored rows of the past days know neither previews nor which days had no
answers.
-/

namespace Botman.AnalyticsOverview

open Botman.Library.KeyedTable
open Botman.Library.Transition
open Botman.Library.Means
open Botman.DataModel
open Botman.ChatEffects
open Botman.PreviewAnalytics
open Botman.AnalyticsTask
open Botman.AnalyticsApi
open Botman.AnalyticsGraph
open Botman.AnalyticsConservation

section Toggle

/-- The message belongs to a preview conversation of the chatbot. -/
def isPreviewOf (db : Database) (chatbot : Nat) (m : Message) : Bool :=
  (db.conversations.get? m.conversation).any fun c => c.chatbot = chatbot && c.isPreview

/-- The preview messages of the window of thirty days. -/
def previewMessages (db : Database) (chatbot today : Nat) : List Message :=
  db.messages.rows.filter fun m =>
    isPreviewOf db chatbot m &&
      (today ≤ dateOf m.createdAt + 29 && dateOf m.createdAt ≤ today)

variable {store : Store} {chatbot today : Nat}

theorem filter_todayMessages_true (db : Database) (chatbot today : Nat) :
    (todayMessages db chatbot today true).filter (isPreviewOf db chatbot) =
        (previewMessages db chatbot today).filter (fun m => dateOf m.createdAt = today) ∧
      (todayMessages db chatbot today true).filter (fun m => !isPreviewOf db chatbot m) =
        todayMessages db chatbot today false := by
  unfold todayMessages previewMessages
  rw [List.filter_filter, List.filter_filter, List.filter_filter]
  constructor
  · refine List.filter_congr fun m _ => ?_
    by_cases hdate : dateOf m.createdAt = today
    · cases hc : db.conversations.get? m.conversation with
      | none => simp [isPreviewOf, hc]
      | some c =>
          by_cases hbot : c.chatbot = chatbot
          · simp [isPreviewOf, isIncluded, hc, hdate, hbot]
          · simp [isPreviewOf, isIncluded, hc, hbot]
    · simp [hdate]
  · refine List.filter_congr fun m _ => ?_
    cases hc : db.conversations.get? m.conversation with
    | none => simp [isIncluded, hc]
    | some c =>
        by_cases hbot : c.chatbot = chatbot
        · simp [isPreviewOf, isIncluded, hc, hbot]
        · simp [isPreviewOf, isIncluded, hc, hbot]

theorem length_todayMessages_true (db : Database) (chatbot today : Nat) :
    (todayMessages db chatbot today true).length =
      (todayMessages db chatbot today false).length +
        ((previewMessages db chatbot today).filter fun m => dateOf m.createdAt = today).length := by
  obtain ⟨hpreview, hplain⟩ := filter_todayMessages_true db chatbot today
  rw [List.length_eq_length_filter_add (isPreviewOf db chatbot), hpreview, hplain, Nat.add_comm]

theorem overview_of_uncached {cache : Cache} {request : AnalyticsRequest} {now : Nat}
    {data : OverviewData} (hcache : cacheGet cache request.cacheKey now = none)
    (h : (overviewView store cache request now).2 = .ok data) :
    overview store request now = .ok data := by
  unfold overviewView at h
  rw [hcache] at h
  cases hdata : overview store request now with
  | error status =>
      rw [hdata] at h
      cases h
  | ok computed =>
      rw [hdata] at h
      cases h
      rfl

theorem cacheGet_overviewView {cache : Cache} {request : AnalyticsRequest} {key : CacheKey}
    {now : Nat} (hkey : key ≠ request.cacheKey) (later : Nat) :
    cacheGet (overviewView store cache request now).1 key later = cacheGet cache key later := by
  rcases overviewView_cases store cache request now with hsame | ⟨-, data, -, hnew⟩
  · rw [hsame]
  · rw [hnew, cacheGet, cacheGet, List.find?_cons_of_neg]
    simpa using hkey.symm

/-- The flag adds the previews of the thirty days to the reported messages
exactly when all of them are of today. -/
theorem toggle_adds_previews_iff {cache : Cache} {plain full : AnalyticsRequest} {now : Nat}
    {data data' : OverviewData} (hplain : plain.includePreview = false)
    (hfull : full.includePreview = true) (hbot : full.chatbotId = plain.chatbotId)
    (hcache : cacheGet cache plain.cacheKey now = none)
    (hcache' : cacheGet cache full.cacheKey now = none)
    (hdata : (overviewView store cache plain now).2 = .ok data)
    (hdata' : (overviewView store (overviewView store cache plain now).1 full now).2 =
      .ok data') :
    (data'.totalMessages : Int) - data.totalMessages =
        (previewMessages store.toDatabase plain.chatbotId (dateOf now)).length ↔
      ∀ m ∈ previewMessages store.toDatabase plain.chatbotId (dateOf now),
        dateOf m.createdAt = dateOf now := by
  have hkey : full.cacheKey ≠ plain.cacheKey := by
    intro hsame
    have hflag := congrArg CacheKey.includePreview hsame
    simp [AnalyticsRequest.cacheKey, hplain, hfull] at hflag
  have hcomputed := overview_eq_ok (overview_of_uncached hcache hdata)
  have hcomputed' := overview_eq_ok
    (overview_of_uncached ((cacheGet_overviewView hkey now).trans hcache') hdata')
  have hadded := length_todayMessages_true store.toDatabase plain.chatbotId (dateOf now)
  rw [hplain] at hcomputed
  rw [hfull, hbot] at hcomputed'
  have hdifference : data'.totalMessages = data.totalMessages +
      ((previewMessages store.toDatabase plain.chatbotId (dateOf now)).filter
        fun m => dateOf m.createdAt = dateOf now).length := by
    rw [hcomputed, hcomputed']
    simp only [overviewData, hadded]
    omega
  have hall := List.length_filter_eq_length_iff
    (l := previewMessages store.toDatabase plain.chatbotId (dateOf now))
    (p := fun m => dateOf m.createdAt = dateOf now)
  simp only [decide_eq_true_eq] at hall
  rw [← hall, hdifference]
  omega

/-- One preview message, and nothing aggregated. -/
def previewStart (createdAt : Nat) : World :=
  { quietStart with
    store :=
      { Store.empty with
        toDatabase :=
          { supportDb with
            conversations := Table.empty.create
              { id := 0, chatbot := 1, visitorIdentifier := "visitor", visitor := none
                session := none, isPreview := true, startedAt := dayOne }
            messages := Table.empty.create { answerRow with createdAt := createdAt } } } }

def fullRequest : AnalyticsRequest :=
  { ownerRequest with includePreviewParam := some "true" }

/-- The total of messages without and with previews, one request after the other. -/
def toggledMessages (w : World) : Option (Nat × Nat) :=
  let plain := overviewView w.store w.cache ownerRequest w.now
  match plain.2, (overviewView w.store plain.1 fullRequest w.now).2 with
  | .ok data, .ok data' => some (data.totalMessages, data'.totalMessages)
  | _, _ => none

theorem exists_of_toggledMessages {w : World} {without including : Nat}
    (h : toggledMessages w = some (without, including)) :
    ∃ data data', (overviewView w.store w.cache ownerRequest w.now).2 = .ok data ∧
      (overviewView w.store (overviewView w.store w.cache ownerRequest w.now).1 fullRequest
        w.now).2 = .ok data' ∧
      data.totalMessages = without ∧ data'.totalMessages = including := by
  unfold toggledMessages at h
  dsimp only at h
  split at h
  · rename_i data data' hdata hdata'
    cases h
    exact ⟨data, data', hdata, hdata', rfl, rfl⟩
  · cases h

theorem toggle_adds_preview_of_today :
    ∃ data data', (overviewView (previewStart lastNoon).store [] ownerRequest lastNoon).2 =
        .ok data ∧
      (overviewView (previewStart lastNoon).store
        (overviewView (previewStart lastNoon).store [] ownerRequest lastNoon).1 fullRequest
        lastNoon).2 = .ok data' ∧
      (data'.totalMessages : Int) - data.totalMessages =
        (previewMessages (previewStart lastNoon).store.toDatabase 1 (dateOf lastNoon)).length := by
  have htotals : toggledMessages (previewStart lastNoon) = some (0, 1) := by decide +kernel
  obtain ⟨data, data', hdata, hdata', -, -⟩ := exists_of_toggledMessages htotals
  have hbot : fullRequest.chatbotId = ownerRequest.chatbotId := rfl
  refine ⟨data, data', hdata, hdata', ?_⟩
  exact (toggle_adds_previews_iff (by decide) (by decide) hbot rfl rfl hdata hdata').mpr
    (by decide +kernel)

/-- A preview message of a past day is not, though that day and all the others
were aggregated. -/
theorem toggle_misses_past_preview :
    ∃ w data data', Reaches next anyStep (previewStart dayOne) w ∧ AllSettled w ∧
      (overviewView w.store w.cache ownerRequest w.now).2 = .ok data ∧
      (overviewView w.store (overviewView w.store w.cache ownerRequest w.now).1 fullRequest
        w.now).2 = .ok data' ∧
      data'.totalMessages = data.totalMessages ∧
      (previewMessages w.store.toDatabase 1 (dateOf w.now)).length = 1 := by
  have hexists : ∃ w, Reaches next anyStep (previewStart dayOne) w ∧ w.now = lastNoon ∧
      (∀ date ∈ List.range 29, date ∈ w.settled) ∧ toggledMessages w = some (0, 0) ∧
      (previewMessages w.store.toDatabase 1 (dateOf w.now)).length = 1 :=
    exists_reaches_of_replay allDays (by decide +kernel)
  obtain ⟨w, hrun, hnow, hdays, htotals, hpreviews⟩ := hexists
  obtain ⟨data, data', hdata, hdata', hplain, hfull⟩ := exists_of_toggledMessages htotals
  exact ⟨w, data, data', hrun, allSettled_of_lastNoon hnow hdays, hdata, hdata',
    hfull.trans hplain.symm, hpreviews⟩

end Toggle

section Latency

/-- The latencies that `aggregate_daily_analytics` averages for a day. -/
def botLatencies (db : Database) (chatbot date : Nat) : List ℚ :=
  ((dailyMessages db chatbot date).filter isBotMessage).filterMap Message.latency

theorem avgLatency_eq_mean (messages : List Message) :
    avgLatency messages = mean (messages.filterMap Message.latency) := by
  unfold avgLatency
  dsimp only
  split
  · rename_i hempty
    rw [List.isEmpty_iff.mp hempty, mean_nil]
  · rfl

theorem meanOverDays_eq_mean (history : List ℚ) (today : ℚ) (todayCounts : Bool) :
    meanOverDays history today todayCounts =
      mean (history ++ if todayCounts then [today] else []) := by
  have haverage : average history * history.length = history.sum := by
    cases history with
    | nil => simp [average]
    | cons first rest =>
        have hne : ((first :: rest).length : ℚ) ≠ 0 := by
          simp only [List.length_cons]
          positivity
        simp only [average, List.isEmpty_cons, Bool.false_eq_true, if_false]
        exact div_mul_cancel₀ _ hne
  unfold meanOverDays mean
  dsimp only
  rw [haverage]
  cases todayCounts with
  | true => simp
  | false =>
      cases history with
      | nil => simp
      | cons first rest => simp

theorem avgLatency_dailyStats (store : Store) (chatbot date : Nat) :
    (dailyStats store chatbot date).avgLatency =
      mean (botLatencies store.toDatabase chatbot date) := by
  simp only [dailyStats]
  split
  · rename_i hzero
    rw [botLatencies, List.eq_nil_of_length_eq_zero hzero]
    exact mean_nil.symm
  · exact avgLatency_eq_mean _

/-- The rows of a day hold the means of its latencies. -/
def ExactLatencies (store : Store) (date : Nat) : Prop :=
  ∀ r ∈ store.dailyAnalytics.rows, r.date = date →
    r.avgLatency = mean (botLatencies store.toDatabase r.chatbot date)

theorem exactLatencies_aggregate {store : Store}
    (hrows : ∀ r ∈ store.dailyAnalytics.rows, r.chatbot ∈ store.chatbots.rows.map Chatbot.id)
    (date : Nat) : ExactLatencies (aggregateDailyAnalytics store date) date := by
  intro r hr hdate
  have hbot := rows_aggregate date hrows r hr
  obtain ⟨s, hs, hstats⟩ := dailyRow?_aggregate_self store date (List.mem_map.mp hbot)
  have hrow : dailyRow? (aggregateDailyAnalytics store date) r.chatbot date = some r :=
    (dailyRow?_eq_some_iff _).mpr ⟨hr, rfl, hdate⟩
  rw [hs] at hrow
  cases hrow
  rw [(sameSources_aggregate store date).database, ← avgLatency_dailyStats, ← hstats]

theorem exactLatencies_aggregate_of_ne {store : Store} {date d : Nat} (hne : d ≠ date)
    (h : ExactLatencies store d) : ExactLatencies (aggregateDailyAnalytics store date) d := by
  intro r hr hdate
  have hrow : dailyRow? (aggregateDailyAnalytics store date) r.chatbot d = some r :=
    (dailyRow?_eq_some_iff _).mpr ⟨hr, rfl, hdate⟩
  rw [dailyRow?_aggregate_of_ne store (Or.inl hne)] at hrow
  rw [(sameSources_aggregate store date).database]
  exact h r ((dailyRow?_eq_some_iff _).mp hrow).1 hdate

theorem exactLatencies_change {store : Store} {db : Database} {date : Nat}
    (sessions : Table Session) (hsame : dayMessages db date = dayMessages store.toDatabase date)
    (h : ExactLatencies store date) : ExactLatencies (changeStore store db sessions) date := by
  intro r hr hdate
  have hold := h r ((Table.mem_delete _ _ r).mp hr).1 hdate
  rw [botLatencies, AnalyticsConservation.dailyMessages_eq, ← hsame,
    ← AnalyticsConservation.dailyMessages_eq] at hold
  exact hold

theorem exactLatencies_next {w t : World} {event : Event} (hconsistent : Consistent w)
    (h : ∀ date ∈ w.settled, ExactLatencies w.store date) (hnext : next w event = some t) :
    ∀ date ∈ t.settled, ExactLatencies t.store date := by
  cases event with
  | change db sessions =>
      simp only [next] at hnext
      split at hnext
      · cases hnext
        intro date hdate
        obtain ⟨hsettled, hsame⟩ := List.mem_filter.mp hdate
        exact exactLatencies_change sessions (of_decide_eq_true hsame) (h date hsettled)
      · cases hnext
  | wait time =>
      cases hnext
      exact h
  | aggregate dateStr =>
      cases hnext
      intro date hdate
      by_cases hsame : date = targetDate dateStr w.now
      · rw [hsame]
        exact exactLatencies_aggregate hconsistent.rows _
      · rcases List.mem_cons.mp hdate with heq | hold
        · exact absurd heq hsame
        · exact exactLatencies_aggregate_of_ne hsame (h date hold)
  | overview request =>
      cases hnext
      exact h

theorem exactLatencies_of_run {start w : World} (hstart : Starts start)
    (hrun : Reaches next anyStep start w) :
    Consistent w ∧ ∀ date ∈ w.settled, ExactLatencies w.store date := by
  refine invariant_of_reaches
    (fun w => Consistent w ∧ ∀ date ∈ w.settled, ExactLatencies w.store date) ?_ ?_ hrun
  · rintro w event t ⟨hconsistent, hlatencies⟩ - hnext
    exact ⟨consistent_next hconsistent hnext,
      exactLatencies_next hconsistent hlatencies hnext⟩
  · refine ⟨⟨hstart.refers, hstart.rows, ?_⟩, ?_⟩
    · simp [hstart.settled]
    · simp [hstart.settled]

variable {start w : World} {chatbot : Nat}

/-- The average latency before it is rounded. -/
def meanLatency (w : World) (chatbot : Nat) : ℚ :=
  let messages := todayMessages w.store.toDatabase chatbot (dateOf w.now) false
  meanOverDays ((dailyStatsOf w.store chatbot (dateOf w.now)).map fun r => r.avgLatency)
    (avgLatency messages) (0 < messages.length)

/-- The days that count in the overview, each with the latencies that are
averaged for it: the days with a stored row, and today, where it has messages. -/
def countedDays (w : World) (chatbot : Nat) : List (List ℚ) :=
  let today := dailyMessages w.store.toDatabase chatbot (dateOf w.now)
  ((dailyStatsOf w.store chatbot (dateOf w.now)).map fun r =>
      botLatencies w.store.toDatabase chatbot r.date) ++
    if 0 < today.length then [today.filterMap Message.latency] else []

/-- The latencies of the answers of the window. -/
def answerLatencies (w : World) (chatbot : Nat) : Set ℚ :=
  { v | ∃ m ∈ windowMessages w.store.toDatabase chatbot (dateOf w.now),
    m.sender = .bot ∧ m.latency = some v }

theorem meanLatency_eq_mean (hsettled : AllSettled w)
    (h : ∀ date ∈ w.settled, ExactLatencies w.store date) :
    meanLatency w chatbot = mean ((countedDays w chatbot).map mean) := by
  have hhistory : (dailyStatsOf w.store chatbot (dateOf w.now)).map (fun r => r.avgLatency) =
      (dailyStatsOf w.store chatbot (dateOf w.now)).map fun r =>
        mean (botLatencies w.store.toDatabase chatbot r.date) := by
    refine List.map_congr_left fun r hr => ?_
    obtain ⟨hmem, htest⟩ := List.mem_filter.mp hr
    obtain ⟨hbot, hpast⟩ := Bool.and_eq_true_iff.mp htest
    rw [h r.date (hsettled r.date hpast) r hmem rfl, of_decide_eq_true hbot]
  unfold meanLatency countedDays
  dsimp only
  rw [meanOverDays_eq_mean, hhistory, todayMessages_false, List.map_append, List.map_map,
    avgLatency_eq_mean]
  refine congrArg (fun more => mean (_ ++ more)) ?_
  by_cases hcounts : 0 < (dailyMessages w.store.toDatabase chatbot (dateOf w.now)).length
  · simp [hcounts]
  · simp [hcounts]

theorem mem_windowMessages {db : Database} {today : Nat} {m : Message} :
    m ∈ windowMessages db chatbot today ↔
      m ∈ dailyMessages db chatbot (dateOf m.createdAt) ∧
        today ≤ dateOf m.createdAt + 29 ∧ dateOf m.createdAt ≤ today := by
  simp [windowMessages, dailyMessages, and_assoc]

theorem exists_row_of_message (hconsistent : Consistent w) {date : Nat} (hdate : date ∈ w.settled)
    {m : Message} (hm : m ∈ dailyMessages w.store.toDatabase chatbot date) :
    ∃ r ∈ w.store.dailyAnalytics.rows, r.chatbot = chatbot ∧ r.date = date := by
  have htotals := congrArg Prod.fst (hconsistent.exact date hdate chatbot)
  cases hrow : dailyRow? w.store chatbot date with
  | none =>
      rw [storedTotals, hrow] at htotals
      have hzero : (dailyMessages w.store.toDatabase chatbot date).length = 0 := htotals.symm
      rw [List.eq_nil_of_length_eq_zero hzero] at hm
      cases hm
  | some r => exact ⟨r, (dailyRow?_eq_some_iff _).mp hrow⟩

theorem countedDays_ne_nil (hconsistent : Consistent w) (hsettled : AllSettled w)
    (h : (answerLatencies w chatbot).Nonempty) : countedDays w chatbot ≠ [] := by
  obtain ⟨v, m, hm, -⟩ := h
  obtain ⟨hday, hfrom, hto⟩ := mem_windowMessages.mp hm
  by_cases htoday : dateOf m.createdAt = dateOf w.now
  · rw [htoday] at hday
    have hpos := List.length_pos_of_mem hday
    simp [countedDays, hpos]
  · have hpast : isPastDay (dateOf w.now) (dateOf m.createdAt) = true := by
      simp only [isPastDay, Bool.and_eq_true, decide_eq_true_eq]
      omega
    obtain ⟨r, hr, hbot, hdate⟩ := exists_row_of_message hconsistent (hsettled _ hpast) hday
    have hmem : r ∈ dailyStatsOf w.store chatbot (dateOf w.now) :=
      List.mem_filter.mpr ⟨hr, by simp [hbot, hdate, hpast]⟩
    have hne := List.ne_nil_of_mem hmem
    simp [countedDays, hne]

/-- A day counts in the overview: a past day with a stored row, or today, if it has messages. -/
def Counts (w : World) (chatbot date : Nat) : Prop :=
  (isPastDay (dateOf w.now) date = true ∧
      ∃ r ∈ w.store.dailyAnalytics.rows, r.chatbot = chatbot ∧ r.date = date) ∨
    date = dateOf w.now ∧ dailyMessages w.store.toDatabase chatbot date ≠ []

/-- An answer of the day has a latency. -/
def Answered (w : World) (chatbot date : Nat) : Prop :=
  ∃ m ∈ dailyMessages w.store.toDatabase chatbot date, m.sender = .bot ∧ m.latency.isSome = true

theorem mem_botLatencies {db : Database} {date : Nat} {v : ℚ} :
    v ∈ botLatencies db chatbot date ↔
      ∃ m ∈ dailyMessages db chatbot date, m.sender = .bot ∧ m.latency = some v := by
  simp [botLatencies, isBotMessage, and_assoc]

theorem botLatencies_ne_nil_iff {date : Nat} :
    botLatencies w.store.toDatabase chatbot date ≠ [] ↔ Answered w chatbot date := by
  constructor
  · intro hne
    obtain ⟨v, hv⟩ := List.exists_mem_of_ne_nil _ hne
    obtain ⟨m, hm, hsender, hlatency⟩ := mem_botLatencies.mp hv
    exact ⟨m, hm, hsender, Option.isSome_of_mem hlatency⟩
  · rintro ⟨m, hm, hsender, hlatency⟩
    obtain ⟨v, hv⟩ := Option.isSome_iff_exists.mp hlatency
    exact List.ne_nil_of_mem (mem_botLatencies.mpr ⟨m, hm, hsender, hv⟩)

theorem filterMap_latency_eq_botLatencies {db : Database} {date : Nat}
    (huser : ∀ m ∈ dailyMessages db chatbot date, m.sender = .user → m.latency = none) :
    (dailyMessages db chatbot date).filterMap Message.latency = botLatencies db chatbot date := by
  -- the latencies of today's messages are those of the answers, as no question has one
  rw [botLatencies, List.filterMap_filter]
  refine List.filterMap_congr fun m hm => ?_
  cases hsender : m.sender with
  | bot => simp [isBotMessage, hsender]
  | user => simp [isBotMessage, hsender, huser m hm hsender]

theorem mem_countedDays
    (huser : ∀ m ∈ dailyMessages w.store.toDatabase chatbot (dateOf w.now),
      m.sender = .user → m.latency = none) {day : List ℚ} :
    day ∈ countedDays w chatbot ↔
      ∃ date, Counts w chatbot date ∧ botLatencies w.store.toDatabase chatbot date = day := by
  have htoday : (day ∈ if 0 < (dailyMessages w.store.toDatabase chatbot (dateOf w.now)).length
      then [botLatencies w.store.toDatabase chatbot (dateOf w.now)] else []) ↔
      dailyMessages w.store.toDatabase chatbot (dateOf w.now) ≠ [] ∧
        botLatencies w.store.toDatabase chatbot (dateOf w.now) = day := by
    split
    · rename_i hpos
      simp [List.length_pos_iff.mp hpos, eq_comm]
    · rename_i hnone
      rw [List.length_pos_iff, not_not] at hnone
      simp [hnone]
  unfold countedDays
  dsimp only
  rw [filterMap_latency_eq_botLatencies huser, List.mem_append, htoday, List.mem_map]
  simp only [dailyStatsOf, List.mem_filter, Bool.and_eq_true, decide_eq_true_eq, Counts]
  constructor
  · rintro (⟨r, ⟨hr, hbot, hpast⟩, rfl⟩ | ⟨hne, rfl⟩)
    · exact ⟨r.date, Or.inl ⟨hpast, r, hr, hbot, rfl⟩, rfl⟩
    · exact ⟨_, Or.inr ⟨rfl, hne⟩, rfl⟩
  · rintro ⟨date, ⟨hpast, r, hr, hbot, rfl⟩ | ⟨rfl, hne⟩, rfl⟩
    · exact Or.inl ⟨r, ⟨hr, hbot, hpast⟩, rfl⟩
    · exact Or.inr ⟨hne, rfl⟩

theorem mem_answerLatencies_of_counts {date : Nat} (hcounts : Counts w chatbot date) {v : ℚ}
    (hv : v ∈ botLatencies w.store.toDatabase chatbot date) : v ∈ answerLatencies w chatbot := by
  obtain ⟨m, hm, hsender, hlatency⟩ := mem_botLatencies.mp hv
  have hdate : dateOf m.createdAt = date :=
    of_decide_eq_true (Bool.and_eq_true_iff.mp (List.mem_filter.mp hm).2).2
  refine ⟨m, mem_windowMessages.mpr ⟨hdate ▸ hm, ?_⟩, hsender, hlatency⟩
  rcases hcounts with ⟨hpast, -⟩ | ⟨htoday, -⟩
  · simp only [isPastDay, Bool.and_eq_true, decide_eq_true_eq] at hpast
    omega
  · omega

theorem length_countedDays_le (w : World) (chatbot : Nat) : (countedDays w chatbot).length ≤ 30 := by
  -- one row for each of the 29 past days at most
  have hnodup : ((dailyStatsOf w.store chatbot (dateOf w.now)).map fun r => r.date).Nodup := by
    refine List.Nodup.map_on ?_ ((List.Nodup.of_map _ w.store.dailyAnalytics.nodup).filter _)
    intro r hr s hs hdate
    simp only [dailyStatsOf, List.mem_filter, Bool.and_eq_true, decide_eq_true_eq] at hr hs
    exact w.store.dailyUnique r hr.1 s hs.1 (hr.2.1.trans hs.2.1.symm) hdate
  have hsubset : ((dailyStatsOf w.store chatbot (dateOf w.now)).map fun r => r.date) ⊆
      List.range' (dateOf w.now - 29) 29 := by
    intro date hdate
    obtain ⟨r, hr, rfl⟩ := List.mem_map.mp hdate
    simp only [dailyStatsOf, List.mem_filter, isPastDay, Bool.and_eq_true,
      decide_eq_true_eq] at hr
    rw [List.mem_range'_1]
    omega
  have hpast := (hnodup.subperm hsubset).length_le
  rw [List.length_map, List.length_range'] at hpast
  unfold countedDays
  dsimp only
  rw [List.length_append, List.length_map]
  split
  · exact Nat.add_le_add_right hpast 1
  · exact hpast.trans (by decide)

/-- The reported latency is a mean over days.  It lies within the latencies of the answers
where every day that counts has one; where these latencies are close to each other, only
there. -/
theorem avgLatency_between (hstart : Starts start) (hrun : Reaches next anyStep start w)
    (hsettled : AllSettled w) {request : AnalyticsRequest}
    (hpreview : request.includePreview = false) {data : OverviewData}
    (hdata : overview w.store request w.now = .ok data) {smallest largest : ℚ}
    (hsmallest : IsLeast (answerLatencies w request.chatbotId) smallest)
    (hlargest : IsGreatest (answerLatencies w request.chatbotId) largest)
    (huser : ∀ m ∈ dailyMessages w.store.toDatabase request.chatbotId (dateOf w.now),
      m.sender = .user → m.latency = none) :
    let latency := meanLatency w request.chatbotId
    let allAnswered := ∀ date, Counts w request.chatbotId date → Answered w request.chatbotId date
    data.avgLatency = round2 latency ∧
      (allAnswered → smallest ≤ latency ∧ latency ≤ largest) ∧
      (30 * (largest - smallest) < largest →
        (smallest ≤ latency ∧ latency ≤ largest ↔ allAnswered)) := by
  intro latency allAnswered
  obtain ⟨hconsistent, hlatencies⟩ := exactLatencies_of_run hstart hrun
  have hmean : latency = mean ((countedDays w request.chatbotId).map mean) :=
    meanLatency_eq_mean hsettled hlatencies
  have hne := countedDays_ne_nil hconsistent hsettled ⟨smallest, hsmallest.1⟩
  have hbounds : ∀ day ∈ countedDays w request.chatbotId, ∀ v ∈ day,
      smallest ≤ v ∧ v ≤ largest := by
    intro day hday v hv
    obtain ⟨date, hcounts, rfl⟩ := (mem_countedDays huser).mp hday
    have hmem := mem_answerLatencies_of_counts hcounts hv
    exact ⟨hsmallest.2 hmem, hlargest.2 hmem⟩
  have hbetween : allAnswered → smallest ≤ latency ∧ latency ≤ largest := by
    intro hall
    rw [hmean]
    refine mean_means_between hne ?_ hbounds
    intro day hday
    obtain ⟨date, hcounts, rfl⟩ := (mem_countedDays huser).mp hday
    exact botLatencies_ne_nil_iff.mpr (hall date hcounts)
  refine ⟨?_, hbetween, fun hclose => ⟨fun hwithin date hcounts => ?_, hbetween⟩⟩
  · have hcomputed := overview_eq_ok hdata
    rw [hpreview] at hcomputed
    rw [hcomputed]
    rfl
  · -- a day without a latency pulls the mean below the smallest one
    by_contra hsilent
    have hnil : [] ∈ countedDays w request.chatbotId := (mem_countedDays huser).mpr
      ⟨date, hcounts, not_not.mp (mt botLatencies_ne_nil_iff.mp hsilent)⟩
    have hbelow := mean_means_lt_of_nil_mem hnil (length_countedDays_le w request.chatbotId)
      (hsmallest.2 hlargest.1) hclose fun day hday v hv => (hbounds day hday v hv).2
    rw [← hmean] at hbelow
    exact absurd hwithin.1 (not_le.mpr hbelow)

/-- Answers on given days, with their latencies; no day is aggregated yet. -/
def timedStart (answers : List (Nat × ℚ)) : World :=
  { quietStart with
    store := dayStore (answers.map fun answer =>
      { answerRow with createdAt := answer.1 * dayOne, latency := some answer.2 }) }

theorem starts_timedStart (answers : List (Nat × ℚ)) : Starts (timedStart answers) where
  refers := starts_quietStart.refers
  rows := starts_quietStart.rows
  settled := rfl
  cache := rfl

def windowLatencies (w : World) : List (Sender × Option ℚ) :=
  (windowMessages w.store.toDatabase 1 (dateOf w.now)).map fun m => (m.sender, m.latency)

theorem mem_answerLatencies_of_window {values : List ℚ}
    (h : windowLatencies w = values.map fun v => (.bot, some v)) (v : ℚ) :
    v ∈ answerLatencies w 1 ↔ v ∈ values := by
  have hpair : v ∈ answerLatencies w 1 ↔ (Sender.bot, some v) ∈ windowLatencies w := by
    simp [answerLatencies, windowLatencies]
  rw [hpair, h]
  simp

theorem isLeast_of_window {values : List ℚ} {least : ℚ}
    (h : windowLatencies w = values.map fun v => (.bot, some v)) (hmem : least ∈ values)
    (hle : ∀ v ∈ values, least ≤ v) : IsLeast (answerLatencies w 1) least :=
  ⟨(mem_answerLatencies_of_window h least).mpr hmem,
    fun v hv => hle v ((mem_answerLatencies_of_window h v).mp hv)⟩

theorem isGreatest_of_window {values : List ℚ} {greatest : ℚ}
    (h : windowLatencies w = values.map fun v => (.bot, some v)) (hmem : greatest ∈ values)
    (hle : ∀ v ∈ values, v ≤ greatest) : IsGreatest (answerLatencies w 1) greatest :=
  ⟨(mem_answerLatencies_of_window h greatest).mpr hmem,
    fun v hv => hle v ((mem_answerLatencies_of_window h v).mp hv)⟩

theorem lt_thirty_of_counts (hnow : w.now = lastNoon) {date : Nat} (h : Counts w chatbot date) :
    date < 30 := by
  have hlast : dateOf lastNoon = 29 := by decide
  rcases h with ⟨hpast, -⟩ | ⟨htoday, -⟩
  · simp only [hnow, hlast, isPastDay, Bool.and_eq_true, decide_eq_true_eq] at hpast
    omega
  · rw [hnow, hlast] at htoday
    omega

/-- An answer on each of the thirty days, slower from day to day. -/
def everyDay : List (Nat × ℚ) :=
  (List.range 30).map fun date => (date, 200 + 10 * date)

theorem everyDay_between :
    ∃ w data, Reaches next anyStep (timedStart everyDay) w ∧ AllSettled w ∧
      (dailyStatsOf w.store 1 (dateOf w.now)).length = 29 ∧
      overview w.store ownerRequest w.now = .ok data ∧
      IsLeast (answerLatencies w 1) 200 ∧ IsGreatest (answerLatencies w 1) 490 ∧
      200 ≤ meanLatency w 1 ∧ meanLatency w 1 ≤ 490 := by
  have hexists : ∃ w, Reaches next anyStep (timedStart everyDay) w ∧
      w.now = lastNoon ∧ (∀ date ∈ List.range 29, date ∈ w.settled) ∧
      (dailyStatsOf w.store 1 (dateOf w.now)).length = 29 ∧
      reportedMessages w = some 30 ∧ cacheGet w.cache ownerRequest.cacheKey w.now = none ∧
      windowLatencies w = (everyDay.map Prod.snd).map (fun v => (.bot, some v)) ∧
      (∀ m ∈ dailyMessages w.store.toDatabase 1 (dateOf w.now),
        m.sender = .user → m.latency = none) ∧
      ∀ date ∈ List.range 30, botLatencies w.store.toDatabase 1 date ≠ [] :=
    exists_reaches_of_replay allDays (by decide +kernel)
  obtain ⟨w, hrun, hnow, hdays, hrows, hreported, hcache, hwindow, huser, hanswered⟩ := hexists
  obtain ⟨data, hview, -⟩ := exists_of_reportedMessages hreported
  have hdata := overview_of_uncached hcache hview
  have hleast : IsLeast (answerLatencies w 1) 200 :=
    isLeast_of_window hwindow (by decide +kernel) (by decide +kernel)
  have hgreatest : IsGreatest (answerLatencies w 1) 490 :=
    isGreatest_of_window hwindow (by decide +kernel) (by decide +kernel)
  have hsettled := allSettled_of_lastNoon hnow hdays
  obtain ⟨-, hbetween, -⟩ := avgLatency_between (starts_timedStart everyDay) hrun hsettled
    (by decide) hdata hleast hgreatest huser
  refine ⟨w, data, hrun, hsettled, hrows, hdata, hleast, hgreatest, hbetween ?_⟩
  intro date hcounts
  have hlt := lt_thirty_of_counts hnow hcounts
  exact botLatencies_ne_nil_iff.mp (hanswered date (List.mem_range.mpr hlt))

/-- Two answers of one day, which differ enough to make up for the days without one. -/
theorem spreadAnswers_between :
    ∃ w, Reaches next anyStep (timedStart [(1, 10), (1, 1000)]) w ∧ AllSettled w ∧
      Counts w 1 0 ∧ ¬ Answered w 1 0 ∧
      IsLeast (answerLatencies w 1) 10 ∧ IsGreatest (answerLatencies w 1) 1000 ∧
      10 ≤ meanLatency w 1 ∧ meanLatency w 1 ≤ 1000 := by
  have hexists : ∃ w, Reaches next anyStep (timedStart [(1, 10), (1, 1000)]) w ∧
      w.now = lastNoon ∧ (∀ date ∈ List.range 29, date ∈ w.settled) ∧
      (dailyRow? w.store 1 0).isSome = true ∧ botLatencies w.store.toDatabase 1 0 = [] ∧
      windowLatencies w = [10, 1000].map (fun v => (.bot, some v)) ∧
      10 ≤ meanLatency w 1 ∧ meanLatency w 1 ≤ 1000 :=
    exists_reaches_of_replay allDays (by decide +kernel)
  obtain ⟨w, hrun, hnow, hdays, hrow, hnone, hwindow, hmean⟩ := hexists
  obtain ⟨r, hr⟩ := Option.isSome_iff_exists.mp hrow
  have hcounts : Counts w 1 0 :=
    Or.inl ⟨by rw [hnow]; decide, r, (dailyRow?_eq_some_iff _).mp hr⟩
  refine ⟨w, hrun, allSettled_of_lastNoon hnow hdays, hcounts, ?_,
    isLeast_of_window hwindow (by simp) (by decide +kernel),
    isGreatest_of_window hwindow (by simp) (by decide +kernel), hmean⟩
  exact fun hanswered => botLatencies_ne_nil_iff.mpr hanswered hnone

/-- One answer on a past day: the 28 days without messages count with the
latency zero. -/
theorem quietDays_below :
    ∃ w data, Reaches next anyStep (timedStart [(1, 250)]) w ∧
      AllSettled w ∧ overview w.store ownerRequest w.now = .ok data ∧
      answerLatencies w 1 = {250} ∧ meanLatency w 1 = 250 / 29 := by
  have hexists : ∃ w, Reaches next anyStep (timedStart [(1, 250)]) w ∧
      w.now = lastNoon ∧ (∀ date ∈ List.range 29, date ∈ w.settled) ∧
      reportedMessages w = some 1 ∧ cacheGet w.cache ownerRequest.cacheKey w.now = none ∧
      windowLatencies w = [250].map (fun v => (.bot, some v)) ∧ meanLatency w 1 = 250 / 29 :=
    exists_reaches_of_replay allDays (by decide +kernel)
  obtain ⟨w, hrun, hnow, hdays, hreported, hcache, hwindow, hmean⟩ := hexists
  obtain ⟨data, hview, -⟩ := exists_of_reportedMessages hreported
  refine ⟨w, data, hrun, allSettled_of_lastNoon hnow hdays, overview_of_uncached hcache hview,
    ?_, hmean⟩
  ext v
  rw [mem_answerLatencies_of_window hwindow, List.mem_singleton, Set.mem_singleton_iff]

end Latency

end Botman.AnalyticsOverview
