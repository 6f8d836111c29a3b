import Botman.BotIdentifier

/-!
The session of a visitor as `widgets/widget.js` keeps it: a record in the local
storage of the browser, which a page reads when the chat is opened, and which it
writes after asking for a new session.

The body of a refusal is stored like that of a session, only without a token.
Times are in seconds; a token carries the whole second in which it was issued.
-/

namespace Botman.WidgetSession

open Botman.Library.KeyedTable
open Botman.Library.PythonValue
open Botman.Library.PythonUuid
open Botman.DataModel
open Botman.TenantContext
open Botman.WidgetApi
open Botman.ChatService
open Botman.ChatEffects
open Botman.ChatApi
open Botman.PublicGate
open Botman.BotIdentifier

section Widget

/-- A field of a JavaScript object that holds a text, if anything. -/
inductive JsText where
  | null
  | undefined
  | text (s : String)
  deriving DecidableEq

/-- The truth value of a field. -/
def JsText.truthy : JsText → Bool
  | .text s => s ≠ ""
  | _ => false

/-- A property of a parsed JSON object. -/
def JsText.ofProperty : Option String → JsText
  | none => .undefined
  | some s => .text s

/-- The value `{token, vid}` in the storage.  `JSON.stringify` leaves out what
is undefined. -/
structure StoredSession where
  token : Option String
  vid : Option String
  deriving DecidableEq

/-- The fields of the widget that a session needs. -/
structure Page where
  sessionToken : JsText
  visitorId : JsText
  isOpen : Bool

/-- A page, and what outlives it. -/
structure Browser where
  page : Page
  storage : Option StoredSession

/-- The constructor of the widget. -/
def newPage : Page where
  sessionToken := .null
  visitorId := .null
  isOpen := false

def Browser.new : Browser where
  page := newPage
  storage := none

/-- A new page in the same browser. -/
def load (b : Browser) : Browser :=
  { b with page := newPage }

/-- The fields `session_token` and `visitor_id` of the body of a response; every
response of the server is JSON. -/
def responseFields : SessionResponse → StoredSession
  | .session sessionToken visitorId => ⟨some sessionToken, some visitorId⟩
  | .error _ _ => ⟨none, none⟩
  | .failed => ⟨none, none⟩

def Page.withSession (page : Page) (session : StoredSession) : Page :=
  { page with
    sessionToken := .ofProperty session.token
    visitorId := .ofProperty session.vid }

/-- `initSession`.  The request is made if there is nothing in the storage, and
is absent if the network fails. -/
def initSession (fetched : Option SessionResponse) (b : Browser) : Browser :=
  match b.storage with
  | some stored => { b with page := b.page.withSession stored }
  | none =>
      match fetched with
      | none => b
      | some response =>
          { page := b.page.withSession (responseFields response)
            storage := some (responseFields response) }

/-- `toggleChat`: opening the chat without a token looks for a session. -/
def toggleChat (fetched : Option SessionResponse) (b : Browser) : Browser :=
  let toggled := { b with page := { b.page with isOpen := !b.page.isOpen } }
  if toggled.page.isOpen && !toggled.page.sessionToken.truthy then initSession fetched toggled
  else toggled

/-- The token in the body of a request; what is undefined is left out. -/
def sessionField : JsText → Dict
  | .null => [("session_token", .null)]
  | .undefined => []
  | .text s => [("session_token", .str s)]

/-- The bodies of the chat requests that `sendMessage` makes. -/
def sendMessage (page : Page) (text : String) : List Json :=
  [.obj (sessionField page.sessionToken ++ [("message", .str text)])]

end Widget

section Server

/-- `signing.dumps` in some second and `signing.loads` at some time, with
`max_age=86400`. -/
structure Signer where
  dumps : Int → String → Nat → String
  loads : ℚ → Json → TokenCheck
  dumps_ne_empty : ∀ second visitorId botId, dumps second visitorId botId ≠ ""
  loads_dumps : ∀ now second visitorId botId,
    loads now (.str (dumps second visitorId botId)) =
      if 86400 < now - second then .badSignature else .loaded visitorId botId

/-- The server at a time. -/
def Signer.server (signer : Signer) (base : ChatServer) (now : ℚ) : SessionServer :=
  { base with
    loads := signer.loads now
    uuid := uuidLookup
    dumps := signer.dumps now.floor }

theorem Signer.loads_server (signer : Signer) (base : ChatServer) (now : ℚ) :
    (signer.server base now).loads = signer.loads now :=
  rfl

/-- What the server has and sees when a request arrives. -/
structure Scene where
  db : Database
  user : Option User
  headers : OriginHeaders

/-- A request for a session that gets through, and the identifier that the
server gives to its visitor. -/
structure SessionRequest where
  scene : Scene
  sentAt : ℚ
  visitorId : String

variable (signer : Signer) (base : ChatServer)

def fetchSession (botId : String) (request : SessionRequest) : SessionResponse :=
  askSession request.scene.db (signer.server base request.sentAt) request.visitorId
    request.scene.user request.scene.headers botId

def fetchChat (env : ChatEnv) (scene : Scene) (sentAt : ℚ) (body : Json) : ChatResponse :=
  (widgetChatView (signer.server base sentAt).toChatServer env scene.db
    (processView (pageRequest scene.user) { viewClass := some "WidgetChatView", kwargs := [] })
    scene.headers body).2

/-- What a visitor does. -/
inductive Event where
  | load
  | toggle (request : Option SessionRequest)
  | send (text : String)

def next (botId : String) (b : Browser) : Event → Browser
  | .load => load b
  | .toggle request => toggleChat (request.map (fetchSession signer base botId)) b
  | .send _ => b

/-- The record of a session that was issued at a time. -/
def issued (issuedAt : ℚ) (visitorId : String) (botId : Nat) : StoredSession where
  token := some (signer.dumps issuedAt.floor visitorId botId)
  vid := some visitorId

/-- The server refuses a request for its session token. -/
def RefusesToken (response : ChatResponse) : Prop :=
  response = .error 400 "session_token and message are required" ∨
    response = .error 401 "Invalid or expired session token"

/-- A message that is sent after the page was loaded and the chat opened leads
to a request that is accepted. -/
def Recovers (env : ChatEnv) (botId : String) (request : SessionRequest) (sentAt : ℚ)
    (text : String) (b : Browser) : Prop :=
  let opened := toggleChat (some (fetchSession signer base botId request)) (load b)
  ∃ body ∈ sendMessage opened.page text,
    ¬ RefusesToken (fetchChat signer base env request.scene sentAt body)

end Server

section Histories

variable {signer : Signer} {base : ChatServer} {botId : String}

/-- All that the storage can hold: nothing, the fields of a refusal, or a session. -/
def Leaves (signer : Signer) (storage : Option StoredSession) : Prop :=
  storage = none ∨ storage = some ⟨none, none⟩ ∨
    ∃ issuedAt visitorId id, storage = some (issued signer issuedAt visitorId id)

theorem responseFields_fetchSession (request : SessionRequest) :
    responseFields (fetchSession signer base botId request) = ⟨none, none⟩ ∨
      ∃ id, responseFields (fetchSession signer base botId request) =
        issued signer request.sentAt request.visitorId id := by
  let server := withUuid (signer.server base request.sentAt)
  have hissue : ∀ found,
      responseFields (issueSession server request.visitorId request.scene.db
          request.scene.headers found).2 = ⟨none, none⟩ ∨
        ∃ id, responseFields (issueSession server request.visitorId request.scene.db
          request.scene.headers found).2 = issued signer request.sentAt request.visitorId id := by
    intro found
    unfold issueSession
    split
    · exact Or.inl rfl
    · rename_i bot
      split
      · exact Or.inl rfl
      · exact Or.inl rfl
      · exact Or.inr ⟨bot.id, rfl⟩
    · exact Or.inl rfl
  unfold fetchSession askSession widgetSessionView
  dsimp only
  split
  · exact hissue _
  · split
    · exact hissue _
    · exact Or.inl rfl

theorem leaves_initSession {b : Browser} (h : Leaves signer b.storage)
    (request : Option SessionRequest) :
    Leaves signer (initSession (request.map (fetchSession signer base botId)) b).storage := by
  unfold initSession
  split
  · exact h
  · cases request with
    | none => exact h
    | some request =>
        rcases responseFields_fetchSession request with hrefused | ⟨id, hissued⟩
        · exact Or.inr (Or.inl (congrArg some hrefused))
        · exact Or.inr (Or.inr ⟨_, _, id, congrArg some hissued⟩)

theorem leaves_next {b : Browser} (h : Leaves signer b.storage) (event : Event) :
    Leaves signer (next signer base botId b event).storage := by
  cases event with
  | load => exact h
  | send text => exact h
  | toggle request =>
      unfold next toggleChat
      dsimp only
      split
      · refine leaves_initSession ?_ request
        exact h
      · exact h

theorem leaves_run (events : List Event) {b : Browser} (h : Leaves signer b.storage) :
    Leaves signer (events.foldl (next signer base botId) b).storage := by
  induction events generalizing b with
  | nil => exact h
  | cons event rest ih => exact ih (leaves_next h event)

end Histories

section Recovery

variable {signer : Signer} {base : ChatServer} {botId text : String} {env : ChatEnv}
  {request : SessionRequest} {sentAt : ℚ} {b : Browser}

theorem not_refusesToken_error {status : Nat} {message : String} (h400 : status ≠ 400)
    (h401 : status ≠ 401) : ¬ RefusesToken (.error status message) := by
  rintro (hrefused | hrefused)
  · exact h400 (ChatResponse.error.inj hrefused).1
  · exact h401 (ChatResponse.error.inj hrefused).1

theorem not_refusesToken_failed : ¬ RefusesToken .failed := by
  rintro (hrefused | hrefused)
  · cases hrefused
  · cases hrefused

theorem not_refusesToken_answerCall (server : ChatServer) (db : Database) (call : ChatCall) :
    ¬ RefusesToken (answerCall server env db call).2 := by
  unfold answerCall chatResponse
  dsimp only
  split
  · exact not_refusesToken_failed
  · rintro (hrefused | hrefused) <;> cases hrefused
  · rintro (hrefused | hrefused) <;> cases hrefused

theorem status_of_refused {text : TextServices} {debug : Bool} {headers : OriginHeaders}
    {bot : Chatbot} {status : Nat} {message : String}
    (h : widgetGate text debug headers bot = .refused status message) : status = 403 := by
  unfold widgetGate at h
  split at h
  · exact (GateResult.refused.inj h).1.symm
  · split at h
    · cases h
    · exact (GateResult.refused.inj h).1.symm
    · cases h

theorem not_refusesToken_withChatbot {db : Database} {tenant : Tenant} {p : Chatbot → Bool}
    {body : Chatbot → Database × ChatResponse} (h : ∀ bot, ¬ RefusesToken (body bot).2) :
    ¬ RefusesToken (withChatbot db tenant p body).2 := by
  unfold withChatbot
  split
  · exact not_refusesToken_failed
  · exact not_refusesToken_error (by decide) (by decide)
  · exact h _
  · exact not_refusesToken_failed

theorem refusesToken_text_iff {scene : Scene} {token : String} (hnonempty : token ≠ "")
    (htext : text ≠ "") :
    RefusesToken (fetchChat signer base env scene sentAt
        (.obj (sessionField (.text token) ++ [("message", .str text)]))) ↔
      signer.loads sentAt (.str token) = .badSignature := by
  have htoken : get (sessionField (.text token) ++ [("message", .str text)]) "session_token" =
      .str token := rfl
  have hmessage : get (sessionField (.text token) ++ [("message", .str text)]) "message" =
      .str text := rfl
  have htruthy : ¬ (truthy (.str token) = false ∨ truthy (.str text) = false) := by
    simp [truthy, hnonempty, htext]
  unfold fetchChat widgetChatView
  dsimp only
  rw [htoken, hmessage, if_neg htruthy, signer.loads_server]
  cases hloads : signer.loads sentAt (.str token) with
  | raised => exact iff_of_false not_refusesToken_failed (by simp)
  | badSignature => exact iff_of_true (Or.inr rfl) rfl
  | loaded visitorId id =>
      refine iff_of_false (not_refusesToken_withChatbot fun bot => ?_) (by simp)
      split
      · rename_i hgate
        have hstatus := status_of_refused hgate
        exact not_refusesToken_error (by omega) (by omega)
      · exact not_refusesToken_failed
      · exact not_refusesToken_answerCall _ _ _

theorem refusesToken_issued_iff {scene : Scene} (htext : text ≠ "") (issuedAt : ℚ)
    (visitorId : String) (id : Nat) :
    RefusesToken (fetchChat signer base env scene sentAt (.obj (sessionField
        (.ofProperty (issued signer issuedAt visitorId id).token) ++ [("message", .str text)]))) ↔
      86400 < sentAt - issuedAt.floor := by
  refine (refusesToken_text_iff (signer.dumps_ne_empty issuedAt.floor visitorId id) htext).trans ?_
  rw [signer.loads_dumps]
  split
  · rename_i hold
    exact iff_of_true rfl hold
  · rename_i hnew
    exact iff_of_false (by simp) hnew

theorem refusesToken_undefined {scene : Scene} :
    RefusesToken (fetchChat signer base env scene sentAt
      (.obj (sessionField .undefined ++ [("message", .str text)]))) :=
  Or.inl rfl

/-- The session endpoint finds this chatbot by the identifier, and no other. -/
def SessionFinds (db : Database) (tenant : Tenant) (botId : String) (bot : Chatbot) : Prop :=
  ∃ value, uuidOfString botId = some value ∧
    matchingChatbots db tenant (fun b => b.widgetToken = value) = some [bot]

theorem responseFields_of_config (signer : Signer) {bot : Chatbot}
    (hconfig : configChatbot request.scene.db (pageTenant request.scene.user) botId =
      some (some bot))
    (hgate : widgetGate base.text base.debug request.scene.headers bot = .passed) :
    (SessionFinds request.scene.db (pageTenant request.scene.user) botId bot →
        responseFields (fetchSession signer base botId request) =
          issued signer request.sentAt request.visitorId bot.id) ∧
      (¬ SessionFinds request.scene.db (pageTenant request.scene.user) botId bot →
        responseFields (fetchSession signer base botId request) = ⟨none, none⟩) := by
  have hnonempty : botId ≠ "" := by
    rintro rfl
    cases hconfig
  cases huuid : uuidOfString botId with
  | none =>
      rw [fetchSession, askSession_of_not_uuid _ hnonempty huuid]
      refine ⟨?_, fun _ => rfl⟩
      rintro ⟨value, hvalue, -⟩
      cases huuid.symm.trans hvalue
  | some value =>
      rw [fetchSession, askSession_of_uuid _ hnonempty huuid]
      constructor
      · rintro ⟨value', hvalue, hone⟩
        cases huuid.symm.trans hvalue
        have hpassed : widgetGate (withUuid (signer.server base request.sentAt)).text
            (withUuid (signer.server base request.sentAt)).debug request.scene.headers bot =
              .passed := hgate
        rw [hone, issueSession, hpassed]
        rfl
      · intro hnot
        cases hfound : matchingChatbots request.scene.db (pageTenant request.scene.user)
            (fun b => b.widgetToken = value) with
        | none => rfl
        | some found =>
            rcases found with _ | ⟨first, _ | ⟨second, rest⟩⟩
            · rfl
            · rw [configChatbot, huuid, Option.bind_some, hfound] at hconfig
              cases hconfig
              exact absurd ⟨value, huuid, hfound⟩ hnot
            · rfl

theorem sessionToken_opened (response : SessionResponse) (b : Browser) :
    (toggleChat (some response) (load b)).page.sessionToken =
      .ofProperty (b.storage.getD (responseFields response)).token := by
  unfold toggleChat initSession load
  cases b.storage with
  | none => rfl
  | some stored => rfl

theorem recovers_iff_not_refuses {session : StoredSession}
    (h : b.storage.getD (responseFields (fetchSession signer base botId request)) = session) :
    Recovers signer base env botId request sentAt text b ↔
      ¬ RefusesToken (fetchChat signer base env request.scene sentAt
        (.obj (sessionField (.ofProperty session.token) ++ [("message", .str text)]))) := by
  simp only [Recovers, sendMessage, List.mem_singleton, exists_eq_left, sessionToken_opened, h]

theorem recovers_of_issued (htext : text ≠ "") {issuedAt : ℚ} {visitorId : String} {id : Nat}
    (h : b.storage.getD (responseFields (fetchSession signer base botId request)) =
      issued signer issuedAt visitorId id) :
    Recovers signer base env botId request sentAt text b ↔ sentAt - issuedAt.floor ≤ 86400 := by
  rw [recovers_iff_not_refuses h, refusesToken_issued_iff htext, not_lt]

theorem not_recovers_of_refusal
    (h : b.storage.getD (responseFields (fetchSession signer base botId request)) =
      ⟨none, none⟩) : ¬ Recovers signer base env botId request sentAt text b := by
  rw [recovers_iff_not_refuses h, not_not]
  exact refusesToken_undefined

/-- After any runs of the widget, a new page recovers exactly when nothing is
stored and the session endpoint finds the chatbot, or a session is stored, and
this session is at most a day old when the message is sent. -/
theorem recovers_iff (signer : Signer) (base : ChatServer) (env : ChatEnv) (events : List Event)
    {request : SessionRequest} {bot : Chatbot} (sentAt : ℚ)
    (hconfig : configChatbot request.scene.db (pageTenant request.scene.user) botId =
      some (some bot))
    (hgate : widgetGate base.text base.debug request.scene.headers bot = .passed)
    (htext : text ≠ "") :
    let left := events.foldl (next signer base botId) .new
    Recovers signer base env botId request sentAt text left ↔
      (left.storage = none ∧
          SessionFinds request.scene.db (pageTenant request.scene.user) botId bot ∧
          sentAt - request.sentAt.floor ≤ 86400) ∨
        ∃ issuedAt visitorId id, left.storage = some (issued signer issuedAt visitorId id) ∧
          sentAt - issuedAt.floor ≤ 86400 := by
  intro left
  have hleaves : Leaves signer left.storage := leaves_run events (Or.inl rfl)
  rcases hleaves with hnone | hrefusal | ⟨issuedAt, visitorId, id, hissued⟩
  · obtain ⟨hsession, hrefusal⟩ := responseFields_of_config signer hconfig hgate
    by_cases hfinds : SessionFinds request.scene.db (pageTenant request.scene.user) botId bot
    · rw [recovers_of_issued htext (by rw [hnone, Option.getD_none, hsession hfinds])]
      simp [hnone, hfinds]
    · refine iff_of_false (not_recovers_of_refusal ?_) ?_
      · rw [hnone, Option.getD_none, hrefusal hfinds]
      · simp [hnone, hfinds]
  · refine iff_of_false (not_recovers_of_refusal ?_) ?_
    · rw [hrefusal, Option.getD_some]
    · simp [hrefusal, issued]
  · constructor
    · intro hrecovers
      refine Or.inr ⟨issuedAt, visitorId, id, hissued, ?_⟩
      exact (recovers_of_issued htext (by rw [hissued, Option.getD_some])).mp hrecovers
    · rintro (⟨hnone, -⟩ | ⟨issuedAt, visitorId, id, hissued, hfresh⟩)
      · cases hissued.symm.trans hnone
      · exact (recovers_of_issued htext (by rw [hissued, Option.getD_some])).mpr hfresh

end Recovery

section Returning

/-- The digits of a stamp: one mark for each second after or before zero. -/
def stamp (second : Int) : List Char :=
  List.replicate second.toNat 'p' ++ List.replicate (-second).toNat 'n'

def stampValue (chars : List Char) : Int :=
  chars.count 'p' - chars.count 'n'

def notDot (c : Char) : Bool :=
  c ≠ '.'

def clearDumps (second : Int) (visitorId : String) (botId : Nat) : String :=
  String.ofList (stamp second ++ '.' :: (List.replicate botId 'i' ++ '.' :: visitorId.toList))

def clearLoads (now : ℚ) : Json → TokenCheck
  | .str token =>
      let second := stampValue (token.toList.takeWhile notDot)
      let rest := (token.toList.dropWhile notDot).drop 1
      if 86400 < now - second then .badSignature
      else .loaded (String.ofList ((rest.dropWhile notDot).drop 1)) (rest.takeWhile notDot).length
  | _ => .raised

theorem notDot_of_mem_stamp {second : Int} {c : Char} (h : c ∈ stamp second) : notDot c = true := by
  rcases List.mem_append.mp h with hp | hn
  · rw [List.eq_of_mem_replicate hp]
    decide
  · rw [List.eq_of_mem_replicate hn]
    decide

theorem stampValue_stamp (second : Int) : stampValue (stamp second) = second := by
  have hafter : (stamp second).count 'p' = second.toNat := by
    simp [stamp, List.count_replicate]
  have hbefore : (stamp second).count 'n' = (-second).toNat := by
    simp [stamp, List.count_replicate]
  rw [stampValue, hafter, hbefore]
  omega

/-- A signer without secrets, whose tokens can be read. -/
def clearSigner : Signer where
  dumps := clearDumps
  loads := clearLoads
  dumps_ne_empty := by
    intro second visitorId botId hempty
    have hlength := congrArg String.length hempty
    simp [clearDumps] at hlength
  loads_dumps := by
    intro now second visitorId botId
    have hbot : ∀ c ∈ List.replicate botId 'i', notDot c = true := by
      intro c hc
      rw [List.eq_of_mem_replicate hc]
      decide
    have hdot : notDot '.' = false := by decide
    simp [clearLoads, clearDumps, List.takeWhile_append_of_pos fun c => notDot_of_mem_stamp,
      List.dropWhile_append_of_pos fun c => notDot_of_mem_stamp, hdot,
      List.takeWhile_append_of_pos hbot, List.dropWhile_append_of_pos hbot, stampValue_stamp]

def supportId : String :=
  uuidText supportBot.widgetToken

theorem supportId_ne_empty : supportId ≠ "" := by
  decide

theorem uuid_supportId : uuidOfString supportId = some supportBot.widgetToken :=
  uuidOfString_uuidText _

def supportScene : Scene where
  db := supportDb
  user := none
  headers := foreignVisit.headers

def closedScene : Scene :=
  { supportScene with
    db := { Database.empty with
      chatbots := Table.empty.create { supportBot with isActive := false } } }

def visitAt (scene : Scene) (sentAt : ℚ) : SessionRequest where
  scene := scene
  sentAt := sentAt
  visitorId := "visitor"

theorem config_supportScene (sentAt : ℚ) :
    configChatbot (visitAt supportScene sentAt).scene.db
        (pageTenant (visitAt supportScene sentAt).scene.user) supportId =
      some (some supportBot) := by
  rw [configChatbot, uuid_supportId]
  rfl

theorem gate_supportScene :
    widgetGate plainServer.text plainServer.debug supportScene.headers supportBot = .passed :=
  widgetGate_of_isOpen (isOpen_supportDb supportBot (List.mem_singleton_self _)) _ _

theorem sessionFinds_supportScene :
    SessionFinds supportScene.db (pageTenant supportScene.user) supportId supportBot :=
  ⟨supportBot.widgetToken, uuid_supportId, rfl⟩

theorem storage_after_first (response : SessionResponse) :
    (toggleChat (some response) .new).storage = some (responseFields response) :=
  rfl

theorem issued_supportScene :
    responseFields (fetchSession clearSigner plainServer supportId (visitAt supportScene 0)) =
      issued clearSigner 0 "visitor" supportBot.id :=
  (responseFields_of_config clearSigner (config_supportScene 0) gate_supportScene).1
    sessionFinds_supportScene

/-- The network fails when the chat is first opened; on the next page it is opened again,
and a message is sent. -/
def earlierVisit : List Event :=
  [.toggle none, .load, .toggle (some (visitAt supportScene 0)), .send "Hello"]

theorem storage_earlierVisit :
    (earlierVisit.foldl (next clearSigner plainServer supportId) .new).storage =
      some (issued clearSigner 0 "visitor" supportBot.id) := by
  rw [← issued_supportScene]
  exact storage_after_first _

theorem visitors_recover :
    Recovers clearSigner plainServer plainEnv supportId (visitAt supportScene 0) 0 "Hi"
        ([Event.toggle none].foldl (next clearSigner plainServer supportId) .new) ∧
      Recovers clearSigner plainServer plainEnv supportId (visitAt supportScene 86400) 86400 "Hi"
        (earlierVisit.foldl (next clearSigner plainServer supportId) .new) := by
  constructor
  · refine (recovers_iff clearSigner plainServer plainEnv [.toggle none] 0
      (config_supportScene 0) gate_supportScene (by decide)).mpr
        (Or.inl ⟨rfl, sessionFinds_supportScene, ?_⟩)
    decide +kernel
  · refine (recovers_iff clearSigner plainServer plainEnv earlierVisit 86400
      (config_supportScene 86400) gate_supportScene (by decide)).mpr
        (Or.inr ⟨0, "visitor", supportBot.id, storage_earlierVisit, ?_⟩)
    decide +kernel

/-- The chat was opened once while the chatbot was switched off, or the chatbot
was visited a day and a second ago: its widget stays without a session. -/
theorem returning_visitor_refused :
    ¬ Recovers clearSigner plainServer plainEnv supportId (visitAt supportScene 100) 100 "Hi"
        ([Event.toggle (some (visitAt closedScene 0))].foldl
          (next clearSigner plainServer supportId) .new) ∧
      ¬ Recovers clearSigner plainServer plainEnv supportId (visitAt supportScene 86401) 86401 "Hi"
        ([Event.toggle (some (visitAt supportScene 0))].foldl
          (next clearSigner plainServer supportId) .new) := by
  constructor
  · have hclosed : fetchSession clearSigner plainServer supportId (visitAt closedScene 0) =
        .error 403 "Bot is inactive." := by
      rw [fetchSession, askSession_of_uuid _ supportId_ne_empty uuid_supportId]
      rfl
    apply not_recovers_of_refusal
    rw [List.foldl_cons, List.foldl_nil, next, Option.map_some, storage_after_first, hclosed]
    rfl
  · have hstorage : ([Event.toggle (some (visitAt supportScene 0))].foldl
        (next clearSigner plainServer supportId) .new).storage =
          some (issued clearSigner 0 "visitor" supportBot.id) := by
      rw [List.foldl_cons, List.foldl_nil, next, Option.map_some, storage_after_first,
        issued_supportScene]
    rw [recovers_of_issued (by decide) (by rw [hstorage, Option.getD_some])]
    decide +kernel

end Returning

end Botman.WidgetSession
