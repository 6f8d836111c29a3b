import Mathlib.Algebra.Order.Ring.Rat
import Botman.Library.PythonValue
import Botman.Library.RateWindow
import Botman.Library.Transition

/-!
The limits on the number of requests: `UserRateThrottle` for every view, and
`ScopedRateThrottle` for the views of the widget, which share one scope.

A request is counted under the key of its user.  Without a user it is counted under the
text of its `X-Forwarded-For` header, whoever wrote it.  Times are exact, and the store is
read and written in one step.
-/

namespace Botman.RateLimits

open Botman.Library.PythonValue
open Botman.Library.RateWindow
open Botman.Library.Transition

section Throttles

/-- The throttles, by their scope. -/
inductive Scope where
  | user
  | publicWidget
  deriving DecidableEq

def Scope.name : Scope → String
  | .user => "user"
  | .publicWidget => "public_widget"

/-- `DEFAULT_THROTTLE_RATES`. -/
def rates : Scope → String
  | .user => "120/min"
  | .publicWidget => "100/min"

/-- The unit of a rate is its first letter. -/
def duration : List Char → Option ℚ
  | 's' :: _ => some 1
  | 'm' :: _ => some 60
  | 'h' :: _ => some 3600
  | 'd' :: _ => some 86400
  | _ => none

/-- `parse_rate`, absent where it raises. -/
def parseRate (rate : String) : Option (Int × ℚ) :=
  match splitChars '/' rate.toList with
  | [num, period] =>
      (intOfString (String.ofList num)).bind fun requests =>
        (duration period).map fun seconds => (requests, seconds)
  | _ => none

/-- The number of requests of a rate. -/
def numRequests (scope : Scope) : Nat :=
  (parseRate (rates scope)).elim 0 fun rate => rate.1.toNat

/-- The length of the window. -/
def seconds (scope : Scope) : ℚ :=
  (parseRate (rates scope)).elim 0 Prod.snd

/-- A request that was authenticated and permitted. -/
structure Request where
  time : ℚ
  user : Option Nat
  forwardedFor : Option String
  remoteAddr : String
  isWidget : Bool

/-- `get_ident`, with no number of proxies in the settings. -/
def getIdent (request : Request) : String :=
  match request.forwardedFor with
  | none => request.remoteAddr
  | some text =>
      if text = "" then request.remoteAddr
      else String.ofList (text.toList.filter fun c => !isSpace c)

/-- Users are known by their keys, others by their addresses. -/
def ident (request : Request) : String :=
  match request.user with
  | some pk => pk.repr
  | none => getIdent request

/-- The key of the times of a name. -/
def cacheKey (scope : Scope) (ident : String) : String :=
  "throttle_" ++ scope.name ++ "_" ++ ident

abbrev Store := String → Option (Record ℚ)

/-- `SimpleRateThrottle.allow_request`. -/
def allowRequest (scope : Scope) (store : Store) (request : Request) : Store × Bool :=
  let key := cacheKey scope (ident request)
  let out := allow (numRequests scope) (seconds scope) request.time (store key)
  (Function.update store key out.1, out.2)

/-- The throttles that count a request. -/
def throttles (request : Request) : List Scope :=
  .user :: if request.isWidget then [.publicWidget] else []

/-- `check_throttles`: every throttle is asked, also after one has refused. -/
def checkThrottles (store : Store) (request : Request) : Store × Bool :=
  (throttles request).foldl
    (fun acc scope =>
      let out := allowRequest scope acc.1 request
      (out.1, acc.2 && out.2))
    (store, true)

end Throttles

section Runs

/-- The requests of the past, newest first. -/
structure World where
  store : Store
  heard : List Request
  served : List Request

def start : World := ⟨fun _ => none, [], []⟩

/-- A request is heard, and served where no throttle refuses it. -/
def step (w : World) (request : Request) : World :=
  let out := checkThrottles w.store request
  ⟨out.1, request :: w.heard, if out.2 then request :: w.served else w.served⟩

/-- The times of the requests that a throttle counts under a name. -/
def timesOf (scope : Scope) (name : String) (requests : List Request) : List ℚ :=
  (requests.filter fun request => decide (scope ∈ throttles request ∧ ident request = name)).map
    Request.time

end Runs

section Keys

theorem cacheKey_inj {scope other : Scope} {name text : String}
    (h : cacheKey scope name = cacheKey other text) : scope = other ∧ name = text := by
  have hname : scope.name ++ "_" ++ name = other.name ++ "_" ++ text := by
    simpa only [cacheKey, String.append_assoc, String.append_right_inj] using h
  have hscope : scope = other := by
    -- the first letters of the scopes differ
    have hhead := congrArg (fun text => text.toList.head?) hname
    cases scope <;> cases other <;>
      simp [Scope.name, String.toList_append] at hhead ⊢
  cases hscope
  exact ⟨rfl, by simpa only [String.append_right_inj] using hname⟩

theorem numRequests_pos (scope : Scope) : 0 < numRequests scope := by
  cases scope <;> decide

end Keys

section Counting

/-- What the throttles have counted, for each scope and name. -/
abbrev Logs := Scope → String → List ℚ

/-- The cache stands for logs that forget nothing. -/
def Represented (now : ℚ) (store : Store) (logs : Logs) : Prop :=
  ∀ scope name, Represents (seconds scope) now (store (cacheKey scope name)) (logs scope name)

/-- The decision on a request by the times that were counted. -/
def decision (logs : Logs) (request : Request) (scope : Scope) : List ℚ × Bool :=
  grant (numRequests scope) (seconds scope) request.time (logs scope (ident request))

/-- The logs after a throttle has decided. -/
def Logs.counted (logs : Logs) (request : Request) (scope : Scope) : Logs :=
  Function.update logs scope
    (Function.update (logs scope) (ident request) (decision logs request scope).1)

theorem represented_allowRequest {store : Store} {logs : Logs} {request : Request}
    (h : Represented request.time store logs) (scope : Scope) :
    (allowRequest scope store request).2 = (decision logs request scope).2 ∧
      Represented request.time (allowRequest scope store request).1
        (logs.counted request scope) := by
  obtain ⟨hverdict, hstored⟩ := represents_allow (numRequests scope) (h scope (ident request))
  refine ⟨hverdict, fun other name => ?_⟩
  unfold allowRequest Logs.counted
  by_cases hother : other = scope
  · subst hother
    by_cases hname : name = ident request
    · subst hname
      simp only [Function.update_self]
      exact hstored
    · have hkey : cacheKey other name ≠ cacheKey other (ident request) :=
        fun hsame => hname (cacheKey_inj hsame).2
      simp only [Function.update_self, Function.update_of_ne hkey, Function.update_of_ne hname]
      exact h other name
  · have hkey : cacheKey other name ≠ cacheKey scope (ident request) :=
      fun hsame => hother (cacheKey_inj hsame).1
    simp only [Function.update_of_ne hkey, Function.update_of_ne hother]
    exact h other name

/-- What the throttles have counted after a request. -/
def Logs.after (logs : Logs) (request : Request) : Logs :=
  (throttles request).foldl (fun logs scope => logs.counted request scope) logs

/-- Every throttle lets the request pass. -/
def accepted (logs : Logs) (request : Request) : Bool :=
  (throttles request).all fun scope => (decision logs request scope).2

theorem decision_counted (logs : Logs) (request : Request) {scope other : Scope}
    (h : other ≠ scope) :
    decision (logs.counted request scope) request other = decision logs request other := by
  rw [decision, Logs.counted, Function.update_of_ne h, decision]

theorem counted_apply (logs : Logs) (request : Request) (counting scope : Scope)
    (name : String) :
    logs.counted request counting scope name =
      if scope = counting ∧ ident request = name then (decision logs request scope).1
      else logs scope name := by
  unfold Logs.counted
  by_cases hscope : scope = counting
  · subst hscope
    rw [Function.update_self]
    by_cases hname : ident request = name
    · rw [if_pos ⟨rfl, hname⟩, ← hname, Function.update_self]
    · rw [if_neg fun h => hname h.2, Function.update_of_ne (Ne.symm hname)]
  · rw [if_neg fun h => hscope h.1, Function.update_of_ne hscope]

theorem after_apply (logs : Logs) (request : Request) (scope : Scope) (name : String) :
    logs.after request scope name =
      if scope ∈ throttles request ∧ ident request = name then (decision logs request scope).1
      else logs scope name := by
  unfold Logs.after throttles
  cases request.isWidget with
  | false => simpa using counted_apply logs request .user scope name
  | true =>
      simp only [if_true, List.foldl_cons, List.foldl_nil, counted_apply]
      cases scope with
      | user => simp
      | publicWidget => simp [decision_counted]

theorem after_counted (logs : Logs) (request : Request) {scope : Scope}
    (h : scope ∈ throttles request) :
    logs.after request scope (ident request) =
      if (decision logs request scope).2 then request.time :: logs scope (ident request)
      else logs scope (ident request) := by
  rw [after_apply, if_pos ⟨h, rfl⟩, decision, grant_fst]

theorem represented_checkThrottles {store : Store} {logs : Logs} {request : Request}
    (h : Represented request.time store logs) :
    (checkThrottles store request).2 = accepted logs request ∧
      Represented request.time (checkThrottles store request).1 (logs.after request) := by
  obtain ⟨hfirst, hnext⟩ := represented_allowRequest h .user
  unfold checkThrottles accepted Logs.after throttles
  cases request.isWidget with
  | false => exact ⟨by simp [hfirst], hnext⟩
  | true =>
      obtain ⟨hsecond, hlast⟩ := represented_allowRequest hnext .publicWidget
      rw [decision_counted logs request (by decide)] at hsecond
      exact ⟨by simp [hfirst, hsecond], hlast⟩

end Counting

section Limits

/-- The state of a run: what was served was counted, and what was counted was heard. -/
structure Tracks (now : ℚ) (w : World) (logs : Logs) : Prop where
  represented : Represented now w.store logs
  bounded : ∀ scope name, Bounded (numRequests scope) (seconds scope) (logs scope name)
  served : ∀ scope name, (timesOf scope name w.served).Sublist (logs scope name)
  heard : ∀ scope name, (logs scope name).Sublist (timesOf scope name w.heard)

theorem timesOf_cons (scope : Scope) (name : String) (request : Request)
    (requests : List Request) :
    timesOf scope name (request :: requests) =
      if scope ∈ throttles request ∧ ident request = name then
        request.time :: timesOf scope name requests
      else timesOf scope name requests := by
  unfold timesOf
  split <;> rename_i h <;> simp [h]

theorem tracks_step {now : ℚ} {w : World} {logs : Logs} {request : Request}
    (h : Tracks now w logs) (hlater : now ≤ request.time) :
    Tracks request.time (step w request) (logs.after request) := by
  have hrepresented : Represented request.time w.store logs :=
    fun scope name => (h.represented scope name).later hlater
  obtain ⟨hverdict, hafter⟩ := represented_checkThrottles hrepresented
  refine ⟨hafter, ?_, ?_, ?_⟩
  · intro scope name
    rw [after_apply]
    split
    · exact bounded_grant _ (h.bounded scope _)
    · exact h.bounded scope name
  · intro scope name
    have hold := h.served scope name
    simp only [step, hverdict]
    by_cases hcounts : scope ∈ throttles request ∧ ident request = name
    · obtain ⟨hmem, rfl⟩ := hcounts
      rw [after_counted logs request hmem]
      cases haccepted : accepted logs request with
      | true =>
          have hscope : (decision logs request scope).2 = true :=
            List.all_eq_true.mp haccepted scope hmem
          rw [if_pos rfl, timesOf_cons, if_pos ⟨hmem, rfl⟩, if_pos hscope]
          exact hold.cons_cons _
      | false =>
          rw [if_neg Bool.false_ne_true]
          split
          · exact hold.trans (List.sublist_cons_self _ _)
          · exact hold
    · rw [after_apply, if_neg hcounts]
      split
      · rwa [timesOf_cons, if_neg hcounts]
      · exact hold
  · intro scope name
    have hold := h.heard scope name
    simp only [step]
    rw [timesOf_cons]
    by_cases hcounts : scope ∈ throttles request ∧ ident request = name
    · obtain ⟨hmem, rfl⟩ := hcounts
      rw [if_pos ⟨hmem, rfl⟩, after_counted logs request hmem]
      split
      · exact hold.cons_cons _
      · exact hold.trans (List.sublist_cons_self _ _)
    · rwa [if_neg hcounts, after_apply, if_neg hcounts]

theorem tracks_start (now : ℚ) : Tracks now start fun _ _ => [] :=
  ⟨fun _ _ => represents_nil _ _, fun _ _ _ => Nat.zero_le _, fun _ _ => .refl _,
    fun _ _ => .refl _⟩

theorem Tracks.later {now later : ℚ} {w : World} {logs : Logs} (h : Tracks now w logs)
    (hlater : now ≤ later) : Tracks later w logs :=
  ⟨fun scope name => (h.represented scope name).later hlater, h.bounded, h.served, h.heard⟩

/-- The logs of a limiter that has counted the requests and forgets nothing. -/
def fullLogs (requests : List Request) : Logs :=
  requests.foldl Logs.after fun _ _ => []

theorem tracks_foldl {requests : List Request}
    (hsorted : (requests.map Request.time).Pairwise (· ≤ ·)) {now : ℚ}
    (hnow : ∀ request ∈ requests, request.time ≤ now) :
    Tracks now (requests.foldl step start) (fullLogs requests) := by
  induction requests using List.reverseRecOn generalizing now with
  | nil => exact tracks_start now
  | append_singleton earlier request ih =>
      rw [List.map_append, List.pairwise_append] at hsorted
      have htracks := ih hsorted.1 fun r hr =>
        hsorted.2.2 r.time (List.mem_map_of_mem hr) request.time List.mem_cons_self
      rw [fullLogs, List.foldl_append, List.foldl_append]
      exact (tracks_step htracks le_rfl).later
        (hnow request (List.mem_append_right _ List.mem_cons_self))

theorem Tracks.heard_of_refused {w : World} {logs : Logs} {request : Request}
    (h : Tracks request.time w logs) (hrefused : (checkThrottles w.store request).2 = false) :
    ∃ scope ∈ throttles request, numRequests scope ≤
      (recent (seconds scope) request.time (timesOf scope (ident request) w.heard)).length := by
  rw [(represented_checkThrottles h.represented).1] at hrefused
  obtain ⟨scope, hmem, hscope⟩ := List.all_eq_false.mp hrefused
  have hfull := (grant_snd_eq_false_iff _ _ _ _).mp (Bool.eq_false_of_not_eq_true hscope)
  exact ⟨scope, hmem, hfull.trans ((h.heard scope (ident request)).filter _).length_le⟩

theorem Tracks.refused_of_served {w : World} {logs : Logs} {request : Request}
    (h : Tracks request.time w logs) {scope : Scope} (hmem : scope ∈ throttles request)
    (hfull : numRequests scope ≤
      (recent (seconds scope) request.time (timesOf scope (ident request) w.served)).length) :
    (checkThrottles w.store request).2 = false := by
  have hcounted : (decision logs request scope).2 = false :=
    (grant_snd_eq_false_iff _ _ _ _).mpr
      (hfull.trans ((h.served scope (ident request)).filter _).length_le)
  rw [(represented_checkThrottles h.represented).1]
  exact List.all_eq_false.mpr ⟨scope, hmem, by simp [hcounted]⟩

/-- After every run the throttles decide on the next request as a limiter that forgets nothing.
Of the requests that were counted under one name at most as many were served in any window as
the settings say, which is 120 in a minute and 100 of the widget.  The next request is refused
only if as many with its name were heard in the window before it, and it is refused if as many
were served. -/
theorem requests_limited {requests : List Request}
    (hsorted : (requests.map Request.time).Pairwise (· ≤ ·)) {request : Request}
    (hnext : ∀ earlier ∈ requests, earlier.time ≤ request.time) :
    let w := requests.foldl step start
    (numRequests .user = 120 ∧ numRequests .publicWidget = 100 ∧ ∀ scope, seconds scope = 60) ∧
      (checkThrottles w.store request).2 = accepted (fullLogs requests) request ∧
      (∀ scope name last,
        (window (seconds scope) last (timesOf scope name w.served)).length ≤
          numRequests scope) ∧
      ((checkThrottles w.store request).2 = false → ∃ scope ∈ throttles request,
        numRequests scope ≤ (recent (seconds scope) request.time
          (timesOf scope (ident request) w.heard)).length) ∧
      ∀ scope ∈ throttles request, numRequests scope ≤ (recent (seconds scope) request.time
          (timesOf scope (ident request) w.served)).length →
        (checkThrottles w.store request).2 = false := by
  have htracks := tracks_foldl hsorted hnext
  refine ⟨⟨by decide, by decide, fun scope => by cases scope <;> decide⟩,
    (represented_checkThrottles htracks.represented).1, ?_, htracks.heard_of_refused, ?_⟩
  · intro scope name
    exact (htracks.bounded scope name).of_sublist (htracks.served scope name)
  · intro scope hmem hfull
    exact htracks.refused_of_served hmem hfull

/-- A request without a user that carries a header. -/
def forwarded (time : ℚ) (address : String) (isWidget : Bool) (header : String) : Request where
  time := time
  user := none
  forwardedFor := some header
  remoteAddr := address
  isWidget := isWidget

/-- Three requests of one address, two of them under one name. -/
def threeRequests : List Request :=
  [forwarded 0 "192.0.2.1" true "a", forwarded 1 "192.0.2.1" true "b",
    forwarded 1 "192.0.2.1" false "a"]

theorem threeRequests_limited :
    (window 60 1 (timesOf .user "a" (threeRequests.foldl step start).served)).length = 2 ∧
      (window 60 1 (timesOf .user "a" (threeRequests.foldl step start).served)).length ≤
        numRequests .user ∧
      (checkThrottles (threeRequests.foldl step start).store
        (forwarded 2 "192.0.2.1" true "a")).2 = true := by
  have hlimited := @requests_limited threeRequests (by decide)
    (forwarded 2 "192.0.2.1" true "a") (by decide)
  exact ⟨by decide +kernel, hlimited.2.2.1 .user "a" 1, hlimited.2.1.trans (by decide +kernel)⟩

end Limits

section Names

theorem heard_foldl (requests : List Request) :
    (requests.foldl step start).heard = requests.reverse := by
  induction requests using List.reverseRecOn with
  | nil => rfl
  | append_singleton earlier request ih =>
      rw [List.foldl_append, List.reverse_append]
      exact congrArg (request :: ·) ih

theorem accepted_of_few {requests : List Request}
    (hsorted : (requests.map Request.time).Pairwise (· ≤ ·)) {request : Request}
    (hnext : ∀ earlier ∈ requests, earlier.time ≤ request.time)
    (hfew : ∀ scope ∈ throttles request,
      (timesOf scope (ident request) requests.reverse).length < numRequests scope) :
    (checkThrottles (requests.foldl step start).store request).2 = true := by
  by_contra hrefused
  obtain ⟨scope, hmem, hfull⟩ :=
    (tracks_foldl hsorted hnext).heard_of_refused (Bool.eq_false_of_not_eq_true hrefused)
  rw [heard_foldl] at hfull
  exact absurd (hfull.trans (List.length_filter_le _ _)) (Nat.not_le.mpr (hfew scope hmem))

theorem accepted_of_fresh {requests : List Request}
    (hsorted : (requests.map Request.time).Pairwise (· ≤ ·)) {request : Request}
    (hnext : ∀ earlier ∈ requests, earlier.time ≤ request.time)
    (hfresh : ∀ earlier ∈ requests, ident earlier ≠ ident request) :
    (checkThrottles (requests.foldl step start).store request).2 = true := by
  refine accepted_of_few hsorted hnext fun scope _ => ?_
  have hnone : timesOf scope (ident request) requests.reverse = [] := by
    rw [timesOf, List.map_eq_nil_iff, List.filter_eq_nil_iff]
    intro r hr hcounts
    exact hfresh r (List.mem_reverse.mp hr) (of_decide_eq_true hcounts).2
  rw [hnone]
  exact numRequests_pos scope

theorem served_append (requests : List Request) {request : Request}
    (h : (checkThrottles (requests.foldl step start).store request).2 = true) :
    ((requests ++ [request]).foldl step start).served =
      request :: (requests.foldl step start).served := by
  rw [List.foldl_append]
  simp only [List.foldl_cons, List.foldl_nil, step, h, if_true]

theorem served_of_distinct {requests : List Request}
    (hsorted : (requests.map Request.time).Pairwise (· ≤ ·))
    (hdistinct : (requests.map ident).Nodup) :
    (requests.foldl step start).served = requests.reverse := by
  induction requests using List.reverseRecOn with
  | nil => rfl
  | append_singleton earlier request ih =>
      rw [List.map_append, List.pairwise_append] at hsorted
      rw [List.map_append, List.nodup_append] at hdistinct
      have haccepted := accepted_of_fresh hsorted.1
        (fun r hr => hsorted.2.2 r.time (List.mem_map_of_mem hr) request.time List.mem_cons_self)
        fun r hr => hdistinct.2.2 _ (List.mem_map_of_mem hr) _ List.mem_cons_self
      rw [served_append earlier haccepted, ih hsorted.1 hdistinct.1, List.reverse_concat]

/-- The text that an anonymous client sends as its address, without white space. -/
def headerName (request : Request) : String :=
  String.ofList ((request.forwardedFor.getD "").toList.filter fun c => !isSpace c)

/-- An anonymous request that carries the header. -/
structure Anonymous (request : Request) : Prop where
  user : request.user = none
  header : request.forwardedFor.getD "" ≠ ""

theorem Anonymous.ident_eq {request : Request} (h : Anonymous request) :
    ident request = headerName request := by
  cases hforwarded : request.forwardedFor with
  | none => exact absurd (by rw [hforwarded]; rfl) h.header
  | some text =>
      have htext : text ≠ "" := by simpa [hforwarded] using h.header
      simp only [ident, h.user, getIdent, hforwarded, if_neg htext, headerName, Option.getD_some]

/-- An anonymous request is counted under the text of its own header.  In every run, requests of
this kind whose headers differ in more than white space are all served, and so is one whose
header was not used before, whatever else was requested; and a user is refused where 120 served
requests of this kind in the last minute carry the user's key. -/
theorem forwarded_for_decides {requests : List Request}
    (hsorted : (requests.map Request.time).Pairwise (· ≤ ·)) {request : Request}
    (hnext : ∀ earlier ∈ requests, earlier.time ≤ request.time) :
    let w := requests.foldl step start
    ((∀ r ∈ requests, Anonymous r) → (requests.map headerName).Nodup →
        w.served = requests.reverse) ∧
      (Anonymous request → (∀ r ∈ requests, ident r ≠ headerName request) →
        (checkThrottles w.store request).2 = true) ∧
      ∀ (pk : Nat) (spoofed : List Request), request.user = some pk →
        spoofed.Sublist w.served → 120 ≤ spoofed.length →
        (∀ r ∈ spoofed, Anonymous r ∧ headerName r = pk.repr ∧ request.time - 60 < r.time) →
          (checkThrottles w.store request).2 = false := by
  intro w
  refine ⟨?_, ?_, ?_⟩
  · intro hanonymous hdistinct
    have hidents : requests.map ident = requests.map headerName :=
      List.map_congr_left fun r hr => (hanonymous r hr).ident_eq
    exact served_of_distinct hsorted (hidents ▸ hdistinct)
  · intro hanonymous hfresh
    rw [← hanonymous.ident_eq] at hfresh
    exact accepted_of_fresh hsorted hnext hfresh
  · intro pk spoofed huser hserved hmany hspoofed
    have hident : ident request = pk.repr := by rw [ident, huser]
    have hcounted : recent (seconds .user) request.time (timesOf .user pk.repr spoofed) =
        spoofed.map Request.time := by
      have hall : spoofed.filter (fun r =>
          decide (Scope.user ∈ throttles r ∧ ident r = pk.repr)) = spoofed := by
        refine List.filter_eq_self.mpr fun r hr => decide_eq_true ⟨List.mem_cons_self, ?_⟩
        rw [(hspoofed r hr).1.ident_eq, (hspoofed r hr).2.1]
      rw [timesOf, hall]
      refine List.filter_eq_self.mpr fun t ht => decide_eq_true ?_
      obtain ⟨r, hr, rfl⟩ := List.mem_map.mp ht
      exact (hspoofed r hr).2.2
    have hsublist : (recent (seconds .user) request.time (timesOf .user pk.repr spoofed)).Sublist
        (recent (seconds .user) request.time (timesOf .user pk.repr w.served)) :=
      ((hserved.filter _).map _).filter _
    have hlength := hsublist.length_le
    rw [hcounted, List.length_map] at hlength
    refine (tracks_foldl hsorted hnext).refused_of_served List.mem_cons_self ?_
    rw [hident]
    exact hmany.trans hlength

theorem served_replicate {request : Request} (hplain : request.isWidget = false) {count : Nat}
    (hcount : count ≤ 120) :
    ((List.replicate count request).foldl step start).served = List.replicate count request := by
  induction count with
  | zero => rfl
  | succ n ih =>
      have hsorted : ((List.replicate n request).map Request.time).Pairwise (· ≤ ·) := by
        rw [List.map_replicate]
        exact List.pairwise_replicate_of_refl
      have hnext : ∀ r ∈ List.replicate n request, r.time ≤ request.time := fun r hr => by
        rw [List.eq_of_mem_replicate hr]
      have hfew : ∀ scope ∈ throttles request,
          (timesOf scope (ident request) (List.replicate n request).reverse).length <
            numRequests scope := by
        intro scope hscope
        have huser : scope = .user := by simpa [throttles, hplain] using hscope
        have hlimit : numRequests .user = 120 := by decide
        rw [timesOf, List.length_map, List.reverse_replicate, huser, hlimit]
        calc
          _ ≤ (List.replicate n request).length := List.length_filter_le _ _
          _ = n := List.length_replicate
          _ < 120 := hcount
      rw [List.replicate_succ', served_append _ (accepted_of_few hsorted hnext hfew),
        ih (by omega), ← List.replicate_succ, List.replicate_succ']

theorem userFive_refused :
    (([forwarded 0 "192.0.2.1" true "a b", forwarded 1 "192.0.2.1" true "c"]).foldl step
        start).served.length = 2 ∧
      (checkThrottles ((List.replicate 120
        (forwarded 0 "192.0.2.1" false " 5")).foldl step start).store
          { forwarded 1 "198.51.100.7" false "" with user := some 5 }).2 = false := by
  have hsorted : ((List.replicate 120 (forwarded 0 "192.0.2.1" false " 5")).map
      Request.time).Pairwise (· ≤ ·) := by
    rw [List.map_replicate]
    exact List.pairwise_replicate_of_refl
  have hspoofed : ∀ r ∈ List.replicate 120 (forwarded 0 "192.0.2.1" false " 5"),
      r = forwarded 0 "192.0.2.1" false " 5" := fun r hr => List.eq_of_mem_replicate hr
  have hanonymous : ∀ (time : ℚ) (isWidget : Bool) (header : String), header ≠ "" →
      Anonymous (forwarded time "192.0.2.1" isWidget header) := fun _ _ _ h => ⟨rfl, h⟩
  constructor
  · have hserved := (@forwarded_for_decides
      [forwarded 0 "192.0.2.1" true "a b", forwarded 1 "192.0.2.1" true "c"] (by decide)
      (forwarded 1 "192.0.2.1" true "c") (by decide)).1 ?_ (by decide +kernel)
    · rw [hserved]
      rfl
    · intro r hr
      rcases List.mem_pair.mp hr with rfl | rfl
      · exact hanonymous _ _ _ (by decide)
      · exact hanonymous _ _ _ (by decide)
  · refine (@forwarded_for_decides _ hsorted
      { forwarded 1 "198.51.100.7" false "" with user := some 5 } ?_).2.2 5
      (List.replicate 120 (forwarded 0 "192.0.2.1" false " 5")) rfl ?_ (by simp) ?_
    · intro r hr
      rw [hspoofed r hr]
      decide
    · rw [served_replicate rfl le_rfl]
    · intro r hr
      rw [hspoofed r hr]
      exact ⟨hanonymous _ _ _ (by decide), by decide +kernel, by decide +kernel⟩

end Names

end Botman.RateLimits
