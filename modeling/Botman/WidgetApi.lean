import Botman.ChatbotSettings
import Botman.Library.PythonUrl
import Botman.TenantContext

/-!
The checks of the public widget: whether a chatbot may be used at all, whether
the page that embeds it is on its allow-list, and the configuration that
`WidgetConfigView` hands out.
-/

namespace Botman.WidgetApi

open Botman.Library.PythonValue
open Botman.Library.PythonUrl
open Botman.DataModel
open Botman.ChatbotSettings
open Botman.TenantContext

/-- What the text functions of Python rest on beyond this model: `str.lower`
and the checks of `urlparse` on unusual network locations. -/
structure TextServices where
  lower : String → String
  acceptsNetloc : String → Bool

/-- The headers by which a request is traced to a page. -/
structure OriginHeaders where
  origin : Option String
  referer : Option String
  deriving DecidableEq

/-- The text before the first colon of the location. -/
def originDomain (text : TextServices) (origin : String) : Option String :=
  (netloc text.acceptsNetloc origin).map fun location =>
    let domain := text.lower location
    String.ofList (domain.toList.takeWhile fun c => c ≠ ':')

/-- An entry of the allow-list admits a domain: the domain itself, or one that
ends with an entry that starts with a dot. -/
def entryAdmits (entry domain : String) : Bool :=
  domain = entry ||
    (entry.toList.head? = some '.' && entry.toList.isSuffixOf domain.toList)

/-- The list of a chatbot admits the origin. -/
def originAllowed (text : TextServices) (allowedDomains origin : String) : Bool :=
  let allowed := (split allowedDomains ',').map fun d => text.lower (strip d)
  match originDomain text origin with
  | none => false
  | some domain => allowed.any fun entry => entryAdmits entry domain

/-- `validate_origin`, absent where it raises: an allow-list that is not a
text cannot be split. -/
def validateOrigin (text : TextServices) (debug : Bool) (headers : OriginHeaders)
    (bot : Chatbot) : Option Bool :=
  if debug then some true
  else
    match getD (getRuntimeConfig bot) "allowed_domains" (.str "*"),
      firstTruthy headers.origin (firstTruthy headers.referer none) with
    | .str allowed, none => some (allowed = "*")
    | .str allowed, some origin =>
        some (allowed = "*" || originAllowed text allowed origin)
    | _, none => some false
    | _, some _ => none

/-- `validate_bot_status`: the message of the refusal, if there is one. -/
def validateBotStatus (bot : Chatbot) : Option String :=
  if bot.isActive = false then some "Bot is inactive."
  else if bot.isPublished = false then some "Bot is not published."
  else none

/-- The checks before a widget is served. -/
inductive GateResult where
  | passed
  | refused (status : Nat) (message : String)
  | raised
  deriving DecidableEq

/-- The checks that the widget's views make on a chatbot they have found. -/
def widgetGate (text : TextServices) (debug : Bool) (headers : OriginHeaders)
    (bot : Chatbot) : GateResult :=
  match validateBotStatus bot with
  | some message => .refused 403 message
  | none =>
      match validateOrigin text debug headers bot with
      | none => .raised
      | some false => .refused 403 "Origin not allowed"
      | some true => .passed

/-- The body of a configuration. -/
structure WidgetConfig where
  id : Nat
  name : Json
  description : Json
  initialMessage : Json
  widgetToken : String
  primaryColor : String
  position : String
  welcomeMessage : String
  avatarUrl : Json

inductive WidgetConfigResponse where
  | config (body : WidgetConfig)
  | error (status : Nat) (message : String)
  | raised

/-- `WidgetConfigView.get` for the chatbot that its token resolved to. -/
def widgetConfig (text : TextServices) (debug : Bool) (headers : OriginHeaders)
    (bot : Chatbot) : WidgetConfigResponse :=
  match widgetGate text debug headers bot with
  | .raised => .raised
  | .refused status message => .error status message
  | .passed =>
      let config := getRuntimeConfig bot
      .config
        { id := bot.id
          name := get config "name"
          description := get config "description"
          initialMessage :=
            orElse (get config "fallback_behavior") (.str "Hello! How can I help you today?")
          widgetToken := uuidText bot.widgetToken
          primaryColor := "#10b981"
          position := "right"
          welcomeMessage := "Hi! I'm " ++ bot.name ++ ". How can I help?"
          avatarUrl := .null }

end Botman.WidgetApi
