import Botman.ChatService
import Botman.WidgetApi

/-!
The endpoints that take a chat message: `WidgetChatView`, `PublicChatView`,
`ChatViewSet.chat` and `ChatViewSet.preview`, and `WidgetSessionView`, which
issues the token that the first of them asks for.
-/

namespace Botman.ChatApi

open Botman.Library.PythonValue
open Botman.DataModel
open Botman.TenantContext
open Botman.WidgetApi
open Botman.ChatService

/-- The validated data of `ChatRequestSerializer`. -/
structure ChatFields where
  message : String
  visitorId : String
  stream : Bool

/-- A required `CharField` that strips its value and takes no blank. -/
def charField (repr : Json → String) : Option Json → Except String String
  | none => .error "This field is required."
  | some .null => .error "This field may not be null."
  | some (.str s) =>
      if strip s = "" then .error "This field may not be blank."
      else if (strip s).toList.contains (Char.ofNat 0) then
        .error "Null characters are not allowed."
      else .ok (strip s)
  | some (.int n) => .ok (toString n)
  | some (.float q) => .ok (repr (.float q))
  | some _ => .error "Not a valid string."

/-- The texts that a boolean field reads as true, in lower case. -/
def trueTexts : List String := ["t", "y", "yes", "true", "on", "1"]

def falseTexts : List String := ["f", "n", "no", "false", "off", "0"]

/-- A `BooleanField` with default `True`. -/
def booleanField : Option Json → Except String Bool
  | none => .ok true
  | some .null => .error "This field may not be null."
  | some (.bool b) => .ok b
  | some (.int n) => ofNumber n
  | some (.float q) => ofNumber q
  | some (.str s) =>
      let lowered := String.ofList (s.toList.map Char.toLower)
      if lowered ∈ trueTexts then .ok true
      else if lowered ∈ falseTexts then .ok false
      else .error "Must be a valid boolean."
  | some _ => .error "Must be a valid boolean."
where
  ofNumber (q : ℚ) : Except String Bool :=
    if q = 1 then .ok true
    else if q = 0 then .ok false
    else .error "Must be a valid boolean."

/-- The errors of a serializer name the field that was checked. -/
def fieldErrors {α : Type} (field : String) : Except String α → List (String × String)
  | .ok _ => []
  | .error message => [(field, message)]

/-- `ChatRequestSerializer`: the validated data, or the errors with the fields
they belong to. -/
def chatRequestSerializer (repr : Json → String) (data : Json) :
    Except (List (String × String)) ChatFields :=
  match data with
  | .obj fields =>
      let message := charField repr (fields.lookup "message")
      let visitorId := charField repr (fields.lookup "visitor_id")
      let stream := booleanField (fields.lookup "stream")
      match message, visitorId, stream with
      | .ok message, .ok visitorId, .ok stream => .ok ⟨message, visitorId, stream⟩
      | _, _, _ =>
          .error (fieldErrors "message" message ++ fieldErrors "visitor_id" visitorId ++
            fieldErrors "stream" stream)
  | .null => .error [("non_field_errors", "No data provided")]
  | other =>
      .error [("non_field_errors",
        "Invalid data. Expected a dictionary, but got " ++ typeName other ++ ".")]

/-- The endpoint a request is routed to, with the arguments of its URL. -/
inductive ChatTarget where
  | widgetChat
  | publicChat (widgetToken : Uuid)
  | chat (pk : String)
  | preview

/-- The four endpoints that take a message of a visitor. -/
inductive ChatEndpoint where
  | widgetChat
  | publicChat
  | chat
  | preview
  deriving DecidableEq

def ChatTarget.endpoint : ChatTarget → ChatEndpoint
  | .widgetChat => .widgetChat
  | .publicChat _ => .publicChat
  | .chat _ => .chat
  | .preview => .preview

/-- What the middleware knows of the view that a path leads to. -/
def ChatTarget.viewMatch : ChatTarget → ViewMatch
  | .widgetChat => { viewClass := some "WidgetChatView", kwargs := [] }
  | .publicChat token =>
      { viewClass := some "PublicChatView", kwargs := [("widget_token", uuidText token)] }
  | .chat pk => { viewClass := some "ChatViewSet", kwargs := [("pk", pk)] }
  | .preview => { viewClass := some "ChatViewSet", kwargs := [] }

/-- A request with a message, at one of the endpoints. -/
structure ChatRequest where
  target : ChatTarget
  http : HttpRequest
  headers : OriginHeaders
  data : Json

/-- `signing.loads` of a session token. -/
inductive TokenCheck where
  | raised
  | badSignature
  | loaded (visitorId : String) (botId : Nat)

/-- What the views use of the server: the texts of values, the settings, and the check
of a signed token. -/
structure ChatServer where
  repr : Json → String
  text : TextServices
  debug : Bool
  loads : Json → TokenCheck

/-- The answer to a request.  A request fails when an exception leaves the
view, or breaks off the stream it returned. -/
inductive ChatResponse where
  | error (status : Nat) (message : String)
  | invalid (errors : List (String × String))
  | failed
  | stream (events : List SseEvent)
  | answer (text : String) (conversationId : Nat)

/-- A response with an answer, whole or as a stream. -/
def ChatResponse.isReply : ChatResponse → Bool
  | .stream _ => true
  | .answer _ _ => true
  | _ => false

/-- The chatbots that the context shows and that pass a lookup; absent where the query
raises. -/
def matchingChatbots (db : Database) (tenant : Tenant) (p : Chatbot → Bool) :
    Option (List Chatbot) :=
  (getQueryset db chatbotModel tenant db.chatbots.rows).map fun rows => rows.filter p

/-- `get_object_or_404(Chatbot, ...)` and what a view does with its result. -/
def withChatbot (db : Database) (tenant : Tenant) (p : Chatbot → Bool)
    (body : Chatbot → Database × ChatResponse) : Database × ChatResponse :=
  match matchingChatbots db tenant p with
  | none => (db, .failed)
  | some [] => (db, .error 404 "Resource not found.")
  | some [bot] => body bot
  | some (_ :: _ :: _) => (db, .failed)

/-- The response to what `process_chat_message` returns. -/
def chatResponse : ChatResult → ChatResponse
  | .raised _ => .failed
  | .answered text conversation => .answer text conversation.id
  | .streaming events => .stream events

/-- The call of `process_chat_message` that every endpoint ends with. -/
def answerCall (server : ChatServer) (env : ChatEnv) (db : Database) (call : ChatCall) :
    Database × ChatResponse :=
  let out := processChatMessage server.repr env db call
  (out.1, chatResponse out.2)

/-- `WidgetChatView.post`: the token names the visitor and the chatbot, whose checks
decide before the message is processed. -/
def widgetChatView (server : ChatServer) (env : ChatEnv) (db : Database)
    (tenant : Tenant) (headers : OriginHeaders) (data : Json) : Database × ChatResponse :=
  match data with
  | .obj fields =>
      let sessionToken := get fields "session_token"
      let message := get fields "message"
      if truthy sessionToken = false ∨ truthy message = false then
        (db, .error 400 "session_token and message are required")
      else
        match server.loads sessionToken with
        | .raised => (db, .failed)
        | .badSignature => (db, .error 401 "Invalid or expired session token")
        | .loaded visitorId botId =>
            withChatbot db tenant (fun bot => bot.id = botId) fun bot =>
              match widgetGate server.text server.debug headers bot with
              | .refused status message => (db, .error status message)
              | .raised => (db, .failed)
              | .passed =>
                  answerCall server env db
                    { tenant := tenant, bot := bot, visitorId := visitorId
                      message := message, stream := true, previewMode := false }
  | _ => (db, .failed)

/-- The part that `PublicChatView.post` and `ChatViewSet.chat` share: the body
is validated, the chatbot found and the message processed. -/
def chatWith (server : ChatServer) (env : ChatEnv) (db : Database) (tenant : Tenant)
    (p : Chatbot → Bool) (data : Json) : Database × ChatResponse :=
  match chatRequestSerializer server.repr data with
  | .error errors => (db, .invalid errors)
  | .ok fields =>
      withChatbot db tenant p fun bot =>
        answerCall server env db
          { tenant := tenant, bot := bot, visitorId := fields.visitorId
            message := .str fields.message, stream := true, previewMode := false }

/-- `PublicChatView.post`.  The route only matches a well-formed token. -/
def publicChatView (server : ChatServer) (env : ChatEnv) (db : Database)
    (tenant : Tenant) (widgetToken : Uuid) (data : Json) : Database × ChatResponse :=
  chatWith server env db tenant (fun bot => bot.widgetToken = widgetToken) data

/-- `ChatViewSet.chat`.  A key that is not a number raises once the body is
valid. -/
def chatAction (server : ChatServer) (env : ChatEnv) (db : Database) (tenant : Tenant)
    (pk : String) (data : Json) : Database × ChatResponse :=
  match chatRequestSerializer server.repr data, intOfString pk with
  | .ok _, none => (db, .failed)
  | _, key => chatWith server env db tenant (fun bot => some (bot.id : Int) = key) data

/-- `ChatViewSet.preview`. -/
def previewAction (server : ChatServer) (env : ChatEnv) (db : Database) (tenant : Tenant)
    (data : Json) : Database × ChatResponse :=
  match data with
  | .obj body =>
      if truthy (get body "bot_id") = false then (db, .error 400 "bot_id is required")
      else
        match chatRequestSerializer server.repr data with
        | .error errors => (db, .invalid errors)
        | .ok fields =>
            match intOf (get body "bot_id") with
            | none => (db, .failed)
            | some key =>
                withChatbot db tenant (fun bot => (bot.id : Int) = key) fun bot =>
                  answerCall server env db
                    { tenant := tenant, bot := bot, visitorId := fields.visitorId
                      message := .str fields.message, stream := fields.stream
                      previewMode := true }
  | _ => (db, .failed)

/-- A chat request, from the middleware to the response. -/
def handleChat (server : ChatServer) (env : ChatEnv) (db : Database)
    (request : ChatRequest) : Database × ChatResponse :=
  let tenant := processView request.http request.target.viewMatch
  match request.target with
  | .widgetChat => widgetChatView server env db tenant request.headers request.data
  | .publicChat token => publicChatView server env db tenant token request.data
  | .chat pk => chatAction server env db tenant pk request.data
  | .preview => previewAction server env db tenant request.data

/-- What `WidgetSessionView` rests on: `uuid.UUID` of the value of a lookup,
and `signing.dumps` of a visitor and a chatbot. -/
structure SessionServer extends ChatServer where
  uuid : Json → Option Uuid
  dumps : String → Nat → String

/-- The responses of `WidgetSessionView`. -/
inductive SessionResponse where
  | error (status : Nat) (message : String)
  | failed
  | session (sessionToken visitorId : String)

/-- The part after the chatbot was looked up.  The visitor is a fresh
`uuid4`; nothing is stored. -/
def issueSession (server : SessionServer) (visitorId : String) (db : Database)
    (headers : OriginHeaders) : Option (List Chatbot) → Database × SessionResponse
  | some [] => (db, .error 404 "Resource not found.")
  | some [bot] =>
      match widgetGate server.text server.debug headers bot with
      | .refused status message => (db, .error status message)
      | .raised => (db, .failed)
      | .passed => (db, .session (server.dumps visitorId bot.id) visitorId)
  | _ => (db, .failed)

/-- `WidgetSessionView.post`. -/
def widgetSessionView (server : SessionServer) (visitorId : String) (db : Database)
    (tenant : Tenant) (headers : OriginHeaders) (data : Json) : Database × SessionResponse :=
  match data with
  | .obj fields =>
      let widgetToken := get fields "bot_token"
      let botId := get fields "bot_id"
      if truthy widgetToken then
        issueSession server visitorId db headers ((server.uuid widgetToken).bind fun token =>
          matchingChatbots db tenant fun bot => bot.widgetToken = token)
      else if truthy botId then
        issueSession server visitorId db headers ((intOf botId).bind fun key =>
          matchingChatbots db tenant fun bot => (bot.id : Int) = key)
      else (db, .error 400 "bot_token or bot_id is required")
  | _ => (db, .failed)

end Botman.ChatApi
