import Mathlib.Algebra.Order.Ring.Rat
import Mathlib.Tactic.Linarith
import Botman.Library.Transition
import Botman.WidgetSession

/-!
How `frontend/public/widget.js` delivers messages: `initSession`, `sendMessage` and
`toggleWindow` over one session token, which the page keeps in a variable and in the
local storage.

A message is sent with the token at hand.  Where the server answers 401, the token is
dropped, a new session requested, and the message sent once more.  A visitor may send
several messages and open the window before an answer arrives, so that the callbacks
of any number of these tasks interleave.
-/

namespace Botman.WidgetDelivery

open Botman.Library.PythonValue
open Botman.Library.Transition
open Botman.DataModel
open Botman.TenantContext
open Botman.WidgetApi
open Botman.ChatService
open Botman.ChatEffects
open Botman.ChatApi
open Botman.PublicGate
open Botman.BotIdentifier
open Botman.WidgetSession

universe u

section Server

/-- The call of `process_chat_message` that a request to `WidgetChatView` leads to,
where its token is accepted and the chatbot passes the checks. -/
def widgetCall (server : ChatServer) (db : Database) (tenant : Tenant)
    (headers : OriginHeaders) (data : Json) : Option ChatCall :=
  match data with
  | .obj fields =>
      let sessionToken := get fields "session_token"
      let message := get fields "message"
      if truthy sessionToken = false ∨ truthy message = false then none
      else
        match server.loads sessionToken with
        | .loaded visitorId botId =>
            match matchingChatbots db tenant fun bot => bot.id = botId with
            | some [bot] =>
                if widgetGate server.text server.debug headers bot = .passed then
                  some
                    { tenant := tenant, bot := bot, visitorId := visitorId
                      message := message, stream := true, previewMode := false }
                else none
            | _ => none
        | _ => none
  | _ => none

variable {server : ChatServer} {env : ChatEnv} {db : Database} {tenant : Tenant}
  {headers : OriginHeaders} {data : Json}

theorem widgetChatView_of_call {call : ChatCall}
    (h : widgetCall server db tenant headers data = some call) :
    widgetChatView server env db tenant headers data = answerCall server env db call := by
  unfold widgetCall at h
  unfold widgetChatView
  split at h
  · dsimp only at h ⊢
    split at h
    · cases h
    · rename_i htruthy
      rw [if_neg htruthy]
      split at h
      · rename_i visitorId botId hloads
        split at h
        · rename_i bot hfound
          split at h
          · rename_i hgate
            cases h
            simp only [hloads, withChatbot, hfound, hgate]
          · cases h
        · cases h
      · cases h
  · cases h

theorem widgetChatView_of_no_call (h : widgetCall server db tenant headers data = none) :
    (widgetChatView server env db tenant headers data).1 = db ∧
      (widgetChatView server env db tenant headers data).2.isReply = false := by
  cases data with
  | obj fields =>
      unfold widgetCall at h
      unfold widgetChatView
      dsimp only at h ⊢
      split at h
      · rename_i hfalsy
        rw [if_pos hfalsy]
        exact ⟨rfl, rfl⟩
      · rename_i htruthy
        rw [if_neg htruthy]
        cases hloads : server.loads (get fields "session_token") with
        | raised => exact ⟨rfl, rfl⟩
        | badSignature => exact ⟨rfl, rfl⟩
        | loaded visitorId botId =>
            simp only [hloads] at h ⊢
            rcases hfound : matchingChatbots db tenant fun bot => bot.id = botId with
              _ | _ | ⟨bot, _ | _⟩
            · simp only [withChatbot, hfound]
              exact ⟨trivial, rfl⟩
            · simp only [withChatbot, hfound]
              exact ⟨trivial, rfl⟩
            · simp only [withChatbot, hfound] at h ⊢
              cases hgate : widgetGate server.text server.debug headers bot with
              | passed => simp [hgate] at h
              | refused status message => exact ⟨rfl, rfl⟩
              | raised => exact ⟨rfl, rfl⟩
            · simp only [withChatbot, hfound]
              exact ⟨trivial, rfl⟩
  | _ => exact ⟨rfl, rfl⟩

end Server

section Widget

/-- The page that embeds the widget: its attribute `data-bot`, the account that its
browser is logged in with, and the headers of its requests. -/
structure Embedding where
  botId : String
  user : Option User
  headers : OriginHeaders

/-- The variable `state.sessionToken`, the local storage, and the server. -/
structure Shared where
  sessionToken : Option String
  stored : Option String
  db : Database
  now : ℚ

/-- Where a task waits.  The flag tells the first attempt from the repetition. -/
inductive Phase where
  | created
  | opening (retry : Bool)
  | opened (response : Option SessionResponse) (retry : Bool)
  | sending (sessionToken : Option String) (retry : Bool)
  | replied (response : Option ChatResponse) (retry : Bool)
  | settled (response : Option ChatResponse)

/-- A message to be sent or, without one, the opening of the window.  `processed`
records the calls of `process_chat_message` that its requests have led to. -/
structure Task where
  message : Option String
  processed : List ChatCall
  phase : Phase

/-- The steps of a task, what becomes of its requests, and what happens outside. -/
inductive Action where
  | begin
  | serveSession (visitorId : String)
  | loseSession
  | receiveSession
  | serveChat (env : ChatEnv)
  | loseRequest
  | loseResponse (env : ChatEnv)
  | receiveChat
  | outside (db : Database)
  | tick (seconds : Nat)

variable (signer : Signer) (base : ChatServer) (page : Embedding)

/-- The request of `initSession`, in the context that the middleware sets for it. -/
def requestSession (s : Shared) (visitorId : String) : SessionResponse :=
  (widgetSessionView (signer.server base s.now) visitorId s.db (pageTenant page.user)
    page.headers (.obj [("bot_id", .str page.botId)])).2

/-- The body of a chat request; a token that is not there is sent as null. -/
def chatBody (sessionToken : Option String) (text : String) : Json :=
  .obj [("session_token", (sessionToken.map Json.str).getD .null), ("message", .str text)]

/-- A chat request, in the state and at the time in which it arrives. -/
def requestChat (env : ChatEnv) (s : Shared) (sessionToken : Option String) (text : String) :
    Database × ChatResponse :=
  widgetChatView (signer.server base s.now).toChatServer env s.db (pageTenant page.user)
    page.headers (chatBody sessionToken text)

/-- The call that it leads to, if it gets that far. -/
def requestCall (s : Shared) (sessionToken : Option String) (text : String) :
    Option ChatCall :=
  widgetCall (signer.server base s.now).toChatServer s.db (pageTenant page.user) page.headers
    (chatBody sessionToken text)

def hasSession (sessionToken : Option String) : Bool :=
  sessionToken.any fun token => token ≠ ""

/-- The rest of a task after `initSession`: the message is sent with the token that
the page has then, in the same turn of the event loop. -/
def Task.proceed (task : Task) (sessionToken : Option String) (retry : Bool) : Task :=
  match task.message with
  | some _ => { task with phase := .sending sessionToken retry }
  | none => { task with phase := .settled none }

/-- `initSession` after its request.  A response that is not a session is an error,
which is logged. -/
def receiveSession (s : Shared) : Option SessionResponse → Shared
  | some (.session sessionToken _) =>
      { s with sessionToken := some sessionToken, stored := some sessionToken }
  | _ => s

/-- The response at which the widget opens a new session. -/
def isExpired : Option ChatResponse → Bool
  | some (.error status _) => status = 401
  | _ => false

/-- `sendMessage` after its first request, or after the repeated one. -/
def receiveChat (s : Shared) (task : Task) (response : Option ChatResponse) (retry : Bool) :
    Shared × Task :=
  if isExpired response && !retry then
    ({ s with sessionToken := none, stored := none }, { task with phase := .opening true })
  else (s, { task with phase := .settled response })

/-- One action, on what the page and the server share and on the task. -/
def act : Action → Shared → Task → Option (Shared × Task)
  | .begin, s, task =>
      match task.phase with
      | .created =>
          some (s, if hasSession s.sessionToken then task.proceed s.sessionToken false
            else { task with phase := .opening false })
      | _ => none
  | .serveSession visitorId, s, task =>
      match task.phase with
      | .opening retry =>
          some (s, { task with
            phase := .opened (some (requestSession signer base page s visitorId)) retry })
      | _ => none
  | .loseSession, s, task =>
      match task.phase with
      | .opening retry => some (s, { task with phase := .opened none retry })
      | _ => none
  | .receiveSession, s, task =>
      match task.phase with
      | .opened response retry =>
          some (receiveSession s response,
            task.proceed (receiveSession s response).sessionToken retry)
      | _ => none
  | .serveChat env, s, task =>
      match task.phase, task.message with
      | .sending sessionToken retry, some text =>
          let out := requestChat signer base page env s sessionToken text
          some ({ s with db := out.1 },
            { task with
              processed := task.processed ++
                (requestCall signer base page s sessionToken text).toList
              phase := .replied (some out.2) retry })
      | _, _ => none
  | .loseRequest, s, task =>
      match task.phase with
      | .sending _ retry => some (s, { task with phase := .replied none retry })
      | _ => none
  | .loseResponse env, s, task =>
      match task.phase, task.message with
      | .sending sessionToken retry, some text =>
          some ({ s with db := (requestChat signer base page env s sessionToken text).1 },
            { task with
              processed := task.processed ++
                (requestCall signer base page s sessionToken text).toList
              phase := .replied none retry })
      | _, _ => none
  | .receiveChat, s, task =>
      match task.phase with
      | .replied response retry => some (receiveChat s task response retry)
      | _ => none
  | .outside db, s, task => some ({ s with db := db }, task)
  | .tick seconds, s, task => some ({ s with now := s.now + seconds }, task)

/-- What each action needs and does. -/
inductive Acts (s : Shared) (task : Task) : Action → Shared → Task → Prop where
  | resume (hphase : task.phase = .created) (hsession : hasSession s.sessionToken = true) :
      Acts s task .begin s (task.proceed s.sessionToken false)
  | opens (hphase : task.phase = .created) (hsession : hasSession s.sessionToken = false) :
      Acts s task .begin s { task with phase := .opening false }
  | serveSession {retry : Bool} (visitorId : String) (hphase : task.phase = .opening retry) :
      Acts s task (.serveSession visitorId) s
        { task with phase := .opened (some (requestSession signer base page s visitorId)) retry }
  | loseSession {retry : Bool} (hphase : task.phase = .opening retry) :
      Acts s task .loseSession s { task with phase := .opened none retry }
  | receiveSession {response : Option SessionResponse} {retry : Bool}
      (hphase : task.phase = .opened response retry) :
      Acts s task .receiveSession (receiveSession s response)
        (task.proceed (receiveSession s response).sessionToken retry)
  | serveChat (env : ChatEnv) {sessionToken : Option String} {retry : Bool} {text : String}
      (hphase : task.phase = .sending sessionToken retry) (hmessage : task.message = some text) :
      Acts s task (.serveChat env)
        { s with db := (requestChat signer base page env s sessionToken text).1 }
        { task with
          processed := task.processed ++
            (requestCall signer base page s sessionToken text).toList
          phase := .replied (some (requestChat signer base page env s sessionToken text).2)
            retry }
  | loseRequest {sessionToken : Option String} {retry : Bool}
      (hphase : task.phase = .sending sessionToken retry) :
      Acts s task .loseRequest s { task with phase := .replied none retry }
  | loseResponse (env : ChatEnv) {sessionToken : Option String} {retry : Bool} {text : String}
      (hphase : task.phase = .sending sessionToken retry) (hmessage : task.message = some text) :
      Acts s task (.loseResponse env)
        { s with db := (requestChat signer base page env s sessionToken text).1 }
        { task with
          processed := task.processed ++
            (requestCall signer base page s sessionToken text).toList
          phase := .replied none retry }
  | receiveChat {response : Option ChatResponse} {retry : Bool}
      (hphase : task.phase = .replied response retry) :
      Acts s task .receiveChat (receiveChat s task response retry).1
        (receiveChat s task response retry).2
  | outside (db : Database) : Acts s task (.outside db) { s with db := db } task
  | tick (seconds : Nat) : Acts s task (.tick seconds) { s with now := s.now + seconds } task

end Widget

section Bounds

@[simp] def Action.isOwn : Action → Bool
  | .outside _ | .tick _ => false
  | _ => true

@[simp] def Action.isSessionRequest : Action → Bool
  | .serveSession _ | .loseSession => true
  | _ => false

@[simp] def Action.isChatRequest : Action → Bool
  | .serveChat _ | .loseRequest | .loseResponse _ => true
  | _ => false

/-- The most own actions that a task still has. -/
@[simp] def Task.stepsLeft (task : Task) : Nat :=
  match task.phase with
  | .created => 9
  | .opening retry => if retry then 4 else 8
  | .opened _ retry => if retry then 3 else 7
  | .sending _ retry => if retry then 2 else 6
  | .replied _ retry => if retry then 1 else 5
  | .settled _ => 0

@[simp] def Task.sessionsLeft (task : Task) : Nat :=
  match task.phase with
  | .created => 2
  | .opening retry => if retry then 1 else 2
  | .opened _ retry | .sending _ retry | .replied _ retry => if retry then 0 else 1
  | .settled _ => 0

@[simp] def Task.chatsLeft (task : Task) : Nat :=
  match task.phase with
  | .created => 2
  | .opening retry | .opened _ retry | .sending _ retry => if retry then 1 else 2
  | .replied _ retry => if retry then 0 else 1
  | .settled _ => 0

/-- A message that was processed is not sent again. -/
def AtMostOnce (task : Task) : Prop :=
  match task.phase with
  | .created | .opening _ | .opened _ _ | .sending _ _ => task.processed = []
  | .replied response _ =>
      task.processed.length ≤ 1 ∧ (isExpired response = true → task.processed = [])
  | .settled _ => task.processed.length ≤ 1

/-- What a task has a limited number of. -/
inductive Budget where
  | steps
  | sessions
  | chats

/-- What a task has left of a budget. -/
@[simp] def Budget.left : Budget → Task → Nat
  | .steps => Task.stepsLeft
  | .sessions => Task.sessionsLeft
  | .chats => Task.chatsLeft

/-- The actions that a budget is for. -/
@[simp] def Budget.takes : Budget → Action → Bool
  | .steps => Action.isOwn
  | .sessions => Action.isSessionRequest
  | .chats => Action.isChatRequest

variable {signer : Signer} {base : ChatServer} {page : Embedding} {s t : Shared}
  {task after : Task}

theorem acts_of_act {action : Action}
    (h : act signer base page action s task = some (t, after)) :
    Acts signer base page s task action t after := by
  cases action with
  | begin =>
      simp only [act] at h
      split at h
      · rename_i hphase
        cases h
        split
        · rename_i hsession
          exact .resume hphase hsession
        · rename_i hsession
          exact .opens hphase (Bool.eq_false_of_not_eq_true hsession)
      · cases h
  | serveChat env | loseResponse env =>
      simp only [act] at h
      split at h
      · rename_i hphase hmessage
        cases h
        constructor
        · exact hphase
        · exact hmessage
      · cases h
  | receiveChat =>
      simp only [act] at h
      split at h
      · rename_i response retry hphase
        have hacts : Acts signer base page s task .receiveChat
            (receiveChat s task response retry).1 (receiveChat s task response retry).2 :=
          .receiveChat hphase
        rw [Option.some.inj h] at hacts
        exact hacts
      · cases h
  | outside db => cases h; exact .outside db
  | tick seconds => cases h; exact .tick seconds
  | _ =>
      simp only [act] at h
      split at h
      · rename_i hphase
        cases h
        constructor
        exact hphase
      · cases h

theorem isExpired_answerCall (server : ChatServer) (env : ChatEnv) (db : Database)
    (call : ChatCall) : isExpired (some (answerCall server env db call).2) = false := by
  unfold answerCall chatResponse
  dsimp only
  split <;> rfl

theorem isExpired_of_call {env : ChatEnv} {sessionToken : Option String} {text : String}
    {call : ChatCall} (h : requestCall signer base page s sessionToken text = some call) :
    isExpired (some (requestChat signer base page env s sessionToken text).2) = false := by
  rw [requestChat, widgetChatView_of_call h]
  exact isExpired_answerCall _ _ _ _

theorem length_toList_le_one {α : Type u} (o : Option α) : o.toList.length ≤ 1 := by
  cases o <;> simp

theorem atMostOnce_serveChat (env : ChatEnv) {sessionToken : Option String} {text : String}
    (hprocessed : task.processed = []) {response : Option ChatResponse}
    (hresponse : isExpired response = true →
      response = some (requestChat signer base page env s sessionToken text).2)
    (retry : Bool) :
    AtMostOnce
      { task with
        processed := task.processed ++
          (requestCall signer base page s sessionToken text).toList
        phase := .replied response retry } := by
  -- a request is answered with 401 only where it has led to no call
  simp only [AtMostOnce, hprocessed, List.nil_append]
  refine ⟨length_toList_le_one _, fun hexpired => ?_⟩
  cases hcall : requestCall signer base page s sessionToken text with
  | none => rfl
  | some call =>
      rw [hresponse hexpired, isExpired_of_call hcall] at hexpired
      cases hexpired

theorem spends_proceed {action : Action} {sessionToken : Option String} {retry : Bool}
    (hprocessed : task.processed = [])
    (hspent : ∀ budget : Budget,
      budget.left { task with phase := .sending sessionToken retry } +
        (if budget.takes action then 1 else 0) ≤ budget.left task) :
    Spends AtMostOnce Budget.left Budget.takes action task (task.proceed sessionToken retry) := by
  unfold Task.proceed
  split
  · exact ⟨hprocessed, hspent⟩
  · refine ⟨by simp [AtMostOnce, hprocessed], fun budget => ?_⟩
    have hnone : budget.left { task with phase := .settled none } = 0 := by
      cases budget <;> rfl
    exact (Nat.add_le_add_right (hnone.le.trans (Nat.zero_le _)) _).trans (hspent budget)

theorem spends_receiveChat {response : Option ChatResponse} {retry : Bool}
    (hphase : task.phase = .replied response retry) (honce : AtMostOnce task) :
    Spends AtMostOnce Budget.left Budget.takes .receiveChat task
      (receiveChat s task response retry).2 := by
  simp only [AtMostOnce, hphase] at honce
  unfold receiveChat
  split
  · rename_i hagain
    obtain ⟨hexpired, hretry⟩ := Bool.and_eq_true_iff.mp hagain
    obtain rfl : retry = false := by simpa using hretry
    refine ⟨honce.2 hexpired, fun budget => ?_⟩
    cases budget <;> simp [hphase]
  · refine ⟨honce.1, fun budget => ?_⟩
    cases budget <;> cases retry <;> simp [hphase]

theorem spends_of_act {action : Action} (honce : AtMostOnce task)
    (h : act signer base page action s task = some (t, after)) :
    Spends AtMostOnce Budget.left Budget.takes action task after := by
  cases acts_of_act h with
  | resume hphase =>
      simp only [AtMostOnce, hphase] at honce
      refine spends_proceed honce fun budget => ?_
      cases budget <;> simp [hphase]
  | opens hphase =>
      simp only [AtMostOnce, hphase] at honce
      refine ⟨honce, fun budget => ?_⟩
      cases budget <;> simp [hphase]
  | @serveSession retry _ hphase | @loseSession retry hphase =>
      simp only [AtMostOnce, hphase] at honce
      refine ⟨honce, fun budget => ?_⟩
      cases budget <;> cases retry <;> simp [hphase]
  | @receiveSession response retry hphase =>
      simp only [AtMostOnce, hphase] at honce
      refine spends_proceed honce fun budget => ?_
      cases budget <;> cases retry <;> simp [hphase]
  | @serveChat env sessionToken retry text hphase =>
      simp only [AtMostOnce, hphase] at honce
      refine ⟨atMostOnce_serveChat env honce (fun _ => rfl) retry, fun budget => ?_⟩
      cases budget <;> cases retry <;> simp [hphase]
  | @loseRequest sessionToken retry hphase =>
      simp only [AtMostOnce, hphase] at honce
      refine ⟨by simp [AtMostOnce, honce], fun budget => ?_⟩
      cases budget <;> cases retry <;> simp [hphase]
  | @loseResponse env sessionToken retry text hphase =>
      simp only [AtMostOnce, hphase] at honce
      refine ⟨atMostOnce_serveChat env honce (by simp [isExpired]) retry, fun budget => ?_⟩
      cases budget <;> cases retry <;> simp [hphase]
  | receiveChat hphase => exact spends_receiveChat hphase honce
  | outside | tick =>
      refine ⟨honce, fun budget => ?_⟩
      cases budget <;> simp

theorem exists_own_action (signer : Signer) (base : ChatServer) (page : Embedding) (s : Shared)
    (task : Task) (h : ¬ ∃ response, task.phase = .settled response) :
    ∃ action, action.isOwn = true ∧ (act signer base page action s task).isSome = true := by
  cases hphase : task.phase with
  | created => exact ⟨.begin, rfl, by simp [act, hphase]⟩
  | opening retry => exact ⟨.loseSession, rfl, by simp [act, hphase]⟩
  | opened response retry => exact ⟨.receiveSession, rfl, by simp [act, hphase]⟩
  | sending token retry => exact ⟨.loseRequest, rfl, by simp [act, hphase]⟩
  | replied response retry => exact ⟨.receiveChat, rfl, by simp [act, hphase]⟩
  | settled response => exact absurd ⟨response, hphase⟩ h

/-- In every schedule, whichever requests and responses are lost and whatever others
do to the database, a message is handed to `process_chat_message` at most once, for
at most two sessions and two chat requests; its task takes at most nine steps, and
where it can take no more it is settled. -/
theorem task_settles {ι : Type u} [DecidableEq ι] {start c : Config ι Shared Task}
    {schedule : List (ι × Action)}
    (hcreated : ∀ i, (start.locals i).phase = .created ∧ (start.locals i).processed = [])
    (h : replay (interleave (act signer base page)) anyStep start schedule = some c) (i : ι) :
    (c.locals i).processed.length ≤ 1 ∧
      schedule.countP (fun move => move.1 = i ∧ move.2.isSessionRequest = true) ≤ 2 ∧
      schedule.countP (fun move => move.1 = i ∧ move.2.isChatRequest = true) ≤ 2 ∧
      schedule.countP (fun move => move.1 = i ∧ move.2.isOwn = true) ≤ 9 ∧
      ((∀ action, action.isOwn = true →
          interleave (act signer base page) c (i, action) = none) →
        ∃ response, (c.locals i).phase = .settled response) := by
  have hstart : ∀ j, AtMostOnce (start.locals j) := by
    intro j
    simp only [AtMostOnce, hcreated j]
  obtain ⟨honce, hbounds, hdone⟩ := spends_of_interleave
    (fun _ _ _ _ _ honce hact => spends_of_act honce hact)
    (exists_own_action signer base page) hstart h i
  refine ⟨?_, ?_, ?_, ?_, hdone⟩
  · unfold AtMostOnce at honce
    split at honce
    · simp [honce]
    · simp [honce]
    · simp [honce]
    · simp [honce]
    · exact honce.1
    · exact honce
  · exact (hbounds .sessions).trans_eq (by simp only [Budget.left, Task.sessionsLeft, hcreated i])
  · exact (hbounds .chats).trans_eq (by simp only [Budget.left, Task.chatsLeft, hcreated i])
  · exact (hbounds .steps).trans_eq (by simp only [Budget.left, Task.stepsLeft, hcreated i])

end Bounds

section Delivery

variable (signer : Signer) (base : ChatServer) (page : Embedding) (id : Nat)

/-- The chatbot can be used from the page. -/
def Available (db : Database) : Prop :=
  ∃ bot : Chatbot, bot.id = id ∧
    matchingChatbots db (pageTenant page.user) (fun b => b.id = id) = some [bot] ∧
    widgetGate base.text base.debug page.headers bot = .passed

/-- The tasks, each with a watch that is set when the server is asked for its session. -/
def watched : Action → Shared → Task × ℚ → Option (Shared × Task × ℚ) :=
  stamped Shared.now Action.isSessionRequest (act signer base page)

/-- The network works, the chatbot can be used whenever the server is asked, and a repeated
request arrives within a day, less a second, of the request for its session. -/
def Working {ι : Type u} (c : Config ι Shared (Task × ℚ)) (move : ι × Action) : Prop :=
  match move.2, (c.locals move.1).1.phase with
  | .loseSession, _ => False
  | .loseRequest, _ => False
  | .loseResponse _, _ => False
  | .serveSession _, _ => Available base page id c.shared.db
  | .serveChat _, .sending _ retry =>
      Available base page id c.shared.db ∧
        (retry = true → c.shared.now ≤ (c.locals move.1).2 + 86399)
  | _, _ => True

/-- A token of a session for the chatbot, of any age. -/
def IsToken (token : String) : Prop :=
  ∃ second visitorId, token = signer.dumps second visitorId id

/-- The message of a task was handed to `process_chat_message` once. -/
def Once (task : Task) : Prop :=
  ∃ text call, task.message = some text ∧ task.processed = [call] ∧
    call.message = .str text ∧ call.bot.id = id

/-- What is true of a task in each of its phases; `asked` is when it asked for a session.
A request is repeated with the token of that session. -/
def OnCourse (task : Task) (asked : ℚ) : Prop :=
  (∀ text ∈ task.message, text ≠ "") ∧
    match task.phase with
    | .created | .opening _ => task.processed = []
    | .opened response _ =>
        task.processed = [] ∧ ∃ visitorId,
          response = some (.session (signer.dumps asked.floor visitorId id) visitorId)
    | .sending sessionToken retry =>
        task.processed = [] ∧ ∃ token, sessionToken = some token ∧ IsToken signer id token ∧
          (retry = true → ∃ visitorId, token = signer.dumps asked.floor visitorId id)
    | .replied response retry =>
        (task.processed = [] ∧ isExpired response = true ∧ retry = false) ∨
          (Once id task ∧ isExpired response = false)
    | .settled _ => task.message = none ∧ task.processed = [] ∨ Once id task

variable {signer base page id} {s : Shared} {task : Task}

theorem requestSession_of_available (hbot : intOfString page.botId = some (id : Int))
    (h : Available base page id s.db) (visitorId : String) :
    requestSession signer base page s visitorId =
      .session (signer.dumps s.now.floor visitorId id) visitorId := by
  obtain ⟨bot, hid, hfound, hgate⟩ := h
  have hnonempty : page.botId ≠ "" := by
    rintro hempty
    rw [hempty] at hbot
    cases hbot
  have htruthy : truthy (.str page.botId) = true := by simpa [truthy] using hnonempty
  have htoken : truthy (get [("bot_id", .str page.botId)] "bot_token") = false := rfl
  have hget : get [("bot_id", .str page.botId)] "bot_id" = .str page.botId := rfl
  have hkey : matchingChatbots s.db (pageTenant page.user) (fun b => (b.id : Int) = id) =
      some [bot] := by
    simpa only [Int.natCast_inj] using hfound
  have hpassed : widgetGate (signer.server base s.now).text (signer.server base s.now).debug
      page.headers bot = .passed := hgate
  simp only [requestSession, widgetSessionView, htoken, hget, htruthy, intOf, hbot,
    Bool.false_eq_true, if_false, if_true, Option.bind_some, hkey, issueSession, hpassed, hid]
  rfl

theorem truthy_fields {token text : String} (htoken : IsToken signer id token)
    (htext : text ≠ "") : ¬ (truthy (.str token) = false ∨ truthy (.str text) = false) := by
  obtain ⟨second, visitorId, rfl⟩ := htoken
  simp [truthy, htext, signer.dumps_ne_empty]

theorem get_sessionToken (token text : String) :
    get [("session_token", Json.str token), ("message", .str text)] "session_token" =
      .str token := rfl

theorem get_message (token text : String) :
    get [("session_token", Json.str token), ("message", .str text)] "message" = .str text := rfl

theorem requestChat_expired (base : ChatServer) (page : Embedding) {token text : String}
    (htoken : IsToken signer id token) (htext : text ≠ "")
    (hold : signer.loads s.now (.str token) = .badSignature) :
    requestCall signer base page s (some token) text = none ∧
      ∀ env, requestChat signer base page env s (some token) text =
        (s.db, .error 401 "Invalid or expired session token") := by
  unfold requestCall requestChat widgetCall widgetChatView chatBody
  simp only [Option.map_some, Option.getD_some, get_sessionToken, get_message,
    if_neg (truthy_fields htoken htext), signer.loads_server, hold, implies_true, and_self]

theorem requestCall_fresh {token text : String} (htoken : IsToken signer id token)
    (htext : text ≠ "") (h : Available base page id s.db)
    (hnew : signer.loads s.now (.str token) ≠ .badSignature) :
    ∃ call, requestCall signer base page s (some token) text = some call ∧
      call.message = .str text ∧ call.bot.id = id := by
  obtain ⟨bot, hid, hfound, hgate⟩ := h
  have hfields := truthy_fields htoken htext
  obtain ⟨second, visitorId, rfl⟩ := htoken
  have hloads := signer.loads_dumps s.now second visitorId id
  have hpassed : widgetGate (signer.server base s.now).text (signer.server base s.now).debug
      page.headers bot = .passed := hgate
  unfold requestCall widgetCall chatBody
  split at hloads
  · exact absurd hloads hnew
  · simp only [Option.map_some, Option.getD_some, get_sessionToken, get_message, if_neg hfields,
      signer.loads_server, hloads, hfound, hpassed, if_true]
    exact ⟨_, rfl, rfl, hid⟩

theorem loads_of_recent {asked now : ℚ} (h : now ≤ asked + 86399) (visitorId : String) :
    signer.loads now (.str (signer.dumps asked.floor visitorId id)) ≠ .badSignature := by
  have hsecond : asked - 1 < asked.floor := Rat.lt_floor
  have hrecent : ¬ 86400 < now - asked.floor := by linarith
  rw [signer.loads_dumps, if_neg hrecent]
  exact TokenCheck.noConfusion

theorem onCourse_proceed {sessionToken : Option String} {retry : Bool} {asked : ℚ}
    (htexts : ∀ text ∈ task.message, text ≠ "") (hprocessed : task.processed = [])
    (htoken : ∃ token, sessionToken = some token ∧ IsToken signer id token ∧
      (retry = true → ∃ visitorId, token = signer.dumps asked.floor visitorId id)) :
    OnCourse signer id (task.proceed sessionToken retry) asked := by
  unfold Task.proceed
  split
  · exact ⟨htexts, hprocessed, htoken⟩
  · rename_i hmessage
    exact ⟨htexts, Or.inl ⟨hmessage, hprocessed⟩⟩

theorem onCourse_serveChat {env : ChatEnv} {token text : String} {retry : Bool} (asked : ℚ)
    (htexts : ∀ text ∈ task.message, text ≠ "") (hmessage : task.message = some text)
    (hprocessed : task.processed = []) (htoken : IsToken signer id token)
    (havailable : Available base page id s.db)
    (hfresh : retry = true → signer.loads s.now (.str token) ≠ .badSignature) :
    OnCourse signer id
      { task with
        processed := task.processed ++
          (requestCall signer base page s (some token) text).toList
        phase := .replied (some (requestChat signer base page env s (some token) text).2)
          retry } asked := by
  refine ⟨htexts, ?_⟩
  have htext := htexts text hmessage
  by_cases hold : signer.loads s.now (.str token) = .badSignature
  · left
    obtain ⟨hcall, hresponse⟩ := requestChat_expired base page htoken htext hold
    refine ⟨by simp [hprocessed, hcall], by simp [hresponse, isExpired], ?_⟩
    rw [← Bool.not_eq_true]
    exact fun hretry => hfresh hretry hold
  · right
    obtain ⟨call, hcall, htext, hid⟩ := requestCall_fresh htoken htext havailable hold
    refine ⟨⟨text, call, hmessage, by simp [hprocessed, hcall], htext, hid⟩, ?_⟩
    exact isExpired_of_call hcall

theorem onCourse_act {ι : Type u} (hbot : intOfString page.botId = some (id : Int))
    {c : Config ι Shared (Task × ℚ)} {i : ι} {action : Action} {t : Shared} {after : Task × ℚ}
    (hshared : ∀ token ∈ c.shared.sessionToken, IsToken signer id token)
    (htask : OnCourse signer id (c.locals i).1 (c.locals i).2)
    (hguard : Working base page id c (i, action))
    (h : watched signer base page action c.shared (c.locals i) = some (t, after)) :
    (∀ token ∈ t.sessionToken, IsToken signer id token) ∧
      OnCourse signer id after.1 after.2 := by
  obtain ⟨htexts, hphased⟩ := htask
  obtain ⟨h, hwatch⟩ := act_of_stamped h
  obtain ⟨after, asked⟩ := after
  dsimp only at h hwatch
  unfold Working at hguard
  cases acts_of_act h with
  | resume hphase hsession =>
      simp only [hphase] at hphased
      obtain ⟨token, htoken, -⟩ := (Option.any_eq_true _ _).mp hsession
      exact ⟨hshared, onCourse_proceed htexts hphased ⟨token, htoken, hshared token htoken, nofun⟩⟩
  | opens hphase =>
      simp only [hphase] at hphased
      exact ⟨hshared, htexts, hphased⟩
  | serveSession visitorId hphase =>
      simp only [hphase] at hphased hguard
      refine ⟨hshared, htexts, hphased, visitorId, ?_⟩
      rw [hwatch, requestSession_of_available hbot hguard visitorId]
      rfl
  | loseSession | loseRequest | loseResponse => exact hguard.elim
  | receiveSession hphase =>
      simp only [hphase] at hphased
      obtain ⟨hprocessed, visitorId, rfl⟩ := hphased
      have htoken : IsToken signer id (signer.dumps (c.locals i).2.floor visitorId id) :=
        ⟨_, visitorId, rfl⟩
      refine ⟨?_, onCourse_proceed htexts hprocessed ⟨_, rfl, htoken, fun _ => ?_⟩⟩
      · rintro other ⟨⟩
        exact htoken
      · rw [hwatch]
        exact ⟨visitorId, rfl⟩
  | serveChat env hphase hmessage =>
      simp only [hphase] at hphased hguard
      obtain ⟨hprocessed, token, rfl, htoken, hrepeated⟩ := hphased
      refine ⟨hshared, onCourse_serveChat asked htexts hmessage hprocessed htoken hguard.1 ?_⟩
      intro hretry
      obtain ⟨visitorId, rfl⟩ := hrepeated hretry
      exact loads_of_recent (hguard.2 hretry) visitorId
  | receiveChat hphase =>
      simp only [hphase] at hphased
      rcases hphased with ⟨hprocessed, hexpired, rfl⟩ | ⟨honce, hserved⟩
      · simp only [receiveChat, hexpired]
        refine ⟨?_, htexts, hprocessed⟩
        rintro token ⟨⟩
      · simp only [receiveChat, hserved]
        exact ⟨hshared, htexts, Or.inr honce⟩
  | outside db | tick seconds =>
      rw [hwatch]
      exact ⟨hshared, htexts, hphased⟩

end Delivery

section Expiry

variable {signer : Signer} {base : ChatServer} {page : Embedding} {id : Nat}

/-- A page with one task. -/
def onePage {L : Type} (s : Shared) (task : L) : Config Unit Shared L :=
  ⟨s, fun _ => task⟩

theorem interleave_onePage {L : Type} {act : Action → Shared → L → Option (Shared × L)}
    {s t : Shared} {task after : L} {action : Action} (hact : act action s task = some (t, after)) :
    interleave act (onePage s task) ((), action) = some (onePage t after) := by
  refine interleave_eq_some_iff.mpr ⟨t, after, hact, congrArg (Config.mk t) ?_⟩
  funext i
  simp [onePage]

theorem replay_onePage {s t : Shared} {task after : Task} {action : Action}
    (hact : act signer base page action s task = some (t, after)) (rest : List (Unit × Action)) :
    replay (interleave (act signer base page)) anyStep (onePage s task) (((), action) :: rest) =
      replay (interleave (act signer base page)) anyStep (onePage t after) rest := by
  rw [replay, if_pos (show anyStep _ _ from trivial), interleave_onePage hact, Option.bind_some]

theorem reaches_onePage {s t : Shared} {task after : Task} {action : Action} {asked : ℚ}
    {c : Config Unit Shared (Task × ℚ)}
    (hact : act signer base page action s task = some (t, after))
    (hguard : Working base page id (onePage s (task, asked)) ((), action))
    (hrest : Reaches (interleave (watched signer base page)) (Working base page id)
      (onePage t (after, if action.isSessionRequest then s.now else asked)) c) :
    Reaches (interleave (watched signer base page)) (Working base page id)
      (onePage s (task, asked)) c := by
  refine hrest.head hguard (interleave_onePage ?_)
  rw [watched, stamped, hact]
  rfl

/-- The course of a message whose token is refused: the states that its actions lead to. -/
structure Repeats (signer : Signer) (base : ChatServer) (page : Embedding) (env : ChatEnv)
    (s : Shared) (text token renewed : String) (t : Shared) (response : ChatResponse)
    (processed : List ChatCall) : Prop where
  begin : act signer base page .begin s ⟨some text, [], .created⟩ =
    some (s, ⟨some text, [], .sending (some token) false⟩)
  refused : act signer base page (.serveChat env) s
      ⟨some text, [], .sending (some token) false⟩ =
    some (s, ⟨some text, [],
      .replied (some (.error 401 "Invalid or expired session token")) false⟩)
  dropped : act signer base page .receiveChat s ⟨some text, [],
      .replied (some (.error 401 "Invalid or expired session token")) false⟩ =
    some ({ s with sessionToken := none, stored := none }, ⟨some text, [], .opening true⟩)
  asked : act signer base page (.serveSession "visitor")
      { s with sessionToken := none, stored := none } ⟨some text, [], .opening true⟩ =
    some ({ s with sessionToken := none, stored := none },
      ⟨some text, [], .opened (some (.session renewed "visitor")) true⟩)
  opened : act signer base page .receiveSession { s with sessionToken := none, stored := none }
      ⟨some text, [], .opened (some (.session renewed "visitor")) true⟩ =
    some ({ s with sessionToken := some renewed, stored := some renewed },
      ⟨some text, [], .sending (some renewed) true⟩)
  served : act signer base page (.serveChat env)
      { s with sessionToken := some renewed, stored := some renewed }
      ⟨some text, [], .sending (some renewed) true⟩ =
    some (t, ⟨some text, processed, .replied (some response) true⟩)
  settled : act signer base page .receiveChat t
      ⟨some text, processed, .replied (some response) true⟩ =
    some (t, ⟨some text, processed, .settled (some response)⟩)

theorem exists_repeats (hbot : intOfString page.botId = some (id : Int)) {s : Shared}
    (havailable : Available base page id s.db) {token text : String}
    (htoken : IsToken signer id token) (hstored : s.sessionToken = some token)
    (htext : text ≠ "") (hold : signer.loads s.now (.str token) = .badSignature)
    (env : ChatEnv) :
    ∃ t response call, Repeats signer base page env s text token
      (signer.dumps s.now.floor "visitor" id) t response [call] := by
  obtain ⟨hcall, hrefused⟩ := requestChat_expired base page htoken htext hold
  have hhas : hasSession (some token) = true := by
    obtain ⟨second, visitorId, rfl⟩ := htoken
    simp [hasSession, signer.dumps_ne_empty]
  have hsession := @requestSession_of_available signer base page id
    { s with sessionToken := none, stored := none } hbot havailable "visitor"
  let renewed := signer.dumps s.now.floor "visitor" id
  let reopened : Shared := { s with sessionToken := some renewed, stored := some renewed }
  have hnew : signer.loads s.now (.str renewed) ≠ .badSignature :=
    loads_of_recent (by linarith) "visitor"
  have hrenewed : IsToken signer id renewed := ⟨_, _, rfl⟩
  obtain ⟨call, hprocessed, -⟩ :=
    @requestCall_fresh signer base page id reopened renewed text hrenewed htext havailable hnew
  let out := requestChat signer base page env reopened (some renewed) text
  have hserved : isExpired (some out.2) = false := isExpired_of_call hprocessed
  refine ⟨{ reopened with db := out.1 }, out.2, call, ?_, ?_, ?_, ?_, ?_, ?_, ?_⟩
  · simp [act, hstored, hhas, Task.proceed]
  · simp [act, hrefused, hcall]
  · simp [act, receiveChat, isExpired]
  · simp [act, hsession]
  · simp [act, receiveSession, Task.proceed]
  · simp [act, out, reopened, renewed, hprocessed]
  · simp [act, receiveChat, hserved]

/-- The page of the support chatbot, with a token that was issued a day and a second
ago. -/
def supportPage : Embedding where
  botId := "1"
  user := none
  headers := foreignVisit.headers

def yesterday : Shared where
  sessionToken := some (clearSigner.dumps 0 "visitor" 1)
  stored := some (clearSigner.dumps 0 "visitor" 1)
  db := supportDb
  now := 86401

/-- A message that is refused, and sent once more after a new session. -/
def repeatedRun : List (Unit × Action) :=
  [((), .begin), ((), .serveChat plainEnv), ((), .receiveChat), ((), .serveSession "visitor"),
    ((), .receiveSession), ((), .serveChat plainEnv), ((), .receiveChat)]

theorem available_yesterday : Available plainServer supportPage 1 yesterday.db :=
  ⟨supportBot, rfl, rfl, gate_supportScene⟩

theorem exists_repeats_yesterday :
    ∃ t response call, Repeats clearSigner plainServer supportPage plainEnv yesterday "Hi"
      (clearSigner.dumps 0 "visitor" 1) (clearSigner.dumps yesterday.now.floor "visitor" 1) t
      response [call] := by
  have hbot : intOfString supportPage.botId = some ((1 : Nat) : Int) := by decide
  have hold : clearSigner.loads yesterday.now (.str (clearSigner.dumps 0 "visitor" 1)) =
      .badSignature := by
    rw [clearSigner.loads_dumps, if_pos (by decide +kernel)]
  exact exists_repeats hbot available_yesterday ⟨0, "visitor", rfl⟩ rfl (by decide) hold plainEnv

theorem yesterday_task_settles :
    (∃ c, replay (interleave (act clearSigner plainServer supportPage)) anyStep
        (onePage yesterday ⟨some "Hi", [], .created⟩) repeatedRun = some c ∧
      (c.locals ()).processed.length = 1 ∧
      repeatedRun.countP (fun move => move.1 = () ∧ move.2.isChatRequest = true) = 2) ∧
      ∀ schedule c, replay (interleave (act clearSigner plainServer supportPage)) anyStep
          (onePage yesterday ⟨some "Hi", [], .created⟩) schedule = some c →
        (c.locals ()).processed.length ≤ 1 ∧
          schedule.countP (fun move => move.1 = () ∧ move.2.isChatRequest = true) ≤ 2 := by
  refine ⟨?_, fun schedule c h => ?_⟩
  · obtain ⟨t, response, call, hrun⟩ := exists_repeats_yesterday
    refine ⟨onePage t ⟨some "Hi", [call], .settled (some response)⟩, ?_, rfl, by decide⟩
    rw [repeatedRun, replay_onePage hrun.begin, replay_onePage hrun.refused,
      replay_onePage hrun.dropped, replay_onePage hrun.asked, replay_onePage hrun.opened,
      replay_onePage hrun.served, replay_onePage hrun.settled, replay]
  · have hsettles := task_settles (fun _ => ⟨rfl, rfl⟩) h ()
    exact ⟨hsettles.1, hsettles.2.2.1⟩

end Expiry

end Botman.WidgetDelivery
