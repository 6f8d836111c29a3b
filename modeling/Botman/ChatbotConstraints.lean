import Botman.ChatApi
import Botman.ChatbotConcurrency
import Botman.GoogleSignIn
import Botman.KnowledgeApi

/-!
The constraints on the fields of a chatbot: a name has 3 to 50 characters, and
the language model is one of the choices.

The serializer of chatbots checks both, for every JSON body.  `provider` checks
the model itself, and `update_settings` assigns a name as it comes.
-/

namespace Botman.ChatbotConstraints

open Botman.Library.KeyedTable
open Botman.Library.PythonValue
open Botman.Library.Transition
open Botman.DataModel
open Botman.TenantContext
open Botman.ChatbotSettings
open Botman.ChatbotLimits
open Botman.ChatbotConcurrency
open Botman.ChatApi (booleanField)
open Botman.GoogleSignIn (Check runValidation prohibitNull maxLength)
open Botman.KnowledgeApi (getChatbot getChatbot_eq_ok pkOf)

section Serializer

/-- `repr`, the stored provider configurations, and the checks of the database on
the lengths and characters of the columns. -/
structure BotServer where
  repr : Json → String
  hasConfig : Nat → Bool
  fits : Chatbot → Bool

/-- `CharField.run_validation` up to the validators. -/
def charValue (repr : Json → String) (allowBlank : Bool) (value : Json) : Except String String :=
  if strip (str repr value) = "" then
    if allowBlank then .ok "" else .error "This field may not be blank."
  else
    match value with
    | .null => .error "This field may not be null."
    | .str _ => .ok (strip (str repr value))
    | .int _ => .ok (strip (str repr value))
    | .float _ => .ok (strip (str repr value))
    | _ => .error "Not a valid string."

/-- `CharField.run_validation`, on a field that may be missing. -/
def charField (repr : Json → String) (required allowBlank : Bool) (checks : String → List Check) :
    Option Json → Except (List String) (Option String)
  | none => if required then .error ["This field is required."] else .ok none
  | some value => runValidation checks ((charValue repr allowBlank value).map some)

/-- `MinLengthValidator`. -/
def minLength (limit : Nat) (text : String) : Check where
  passes := limit ≤ text.length
  message := "Ensure this field has at least " ++ toString limit ++ " characters."

/-- The validators of the field `name`. -/
def nameChecks (text : String) : List Check :=
  [maxLength 50 text, minLength 3 text, prohibitNull text]

def plainChecks (text : String) : List Check :=
  [prohibitNull text]

def toneChecks (text : String) : List Check :=
  [maxLength 100 text, prohibitNull text]

/-- `ChoiceField.run_validation`. -/
def choiceField (repr : Json → String) (choices : List String) :
    Option Json → Except (List String) (Option String)
  | none => .ok none
  | some .null => .error ["This field may not be null."]
  | some value =>
      if str repr value ∈ choices then .ok (some (str repr value))
      else .error ["\"" ++ str repr value ++ "\" is not a valid choice."]

/-- The field `provider_config`; an empty text is read as null. -/
def configField (server : BotServer) : Option Json → Except (List String) (Option (Option Nat))
  | none => .ok none
  | some .null => .ok (some none)
  | some (.str "") => .ok (some none)
  | some value =>
      match pkOf value with
      | none => .error ["Incorrect type. Expected pk value, received " ++ typeName value ++ "."]
      | some key =>
          if 0 ≤ key ∧ server.hasConfig key.toNat = true then .ok (some (some key.toNat))
          else .error ["Invalid pk \"" ++ str server.repr value ++ "\" - object does not exist."]

/-- The field `is_active`, which has a default in the model only. -/
def activeField : Option Json → Except (List String) (Option Bool)
  | none => .ok none
  | some value =>
      match booleanField (some value) with
      | .ok b => .ok (some b)
      | .error message => .error [message]

/-- The messages of a field that was refused, under its name. -/
def errorsOf {α : Type} (field : String) :
    Except (List String) (Option α) → List (String × List String)
  | .ok _ => []
  | .error messages => [(field, messages)]

def valueOf {α : Type} : Except (List String) (Option α) → Option α
  | .ok value => value
  | .error _ => none

/-- `ChatbotSerializer`: the validated fields, or the errors.  A PATCH takes a
part of the fields, and of the others only the name is required. -/
def chatbotSerializer (server : BotServer) (isPartial : Bool) (data : Json) :
    Except (List (String × List String)) ChatbotPatch :=
  match data with
  | .obj fields =>
      let char := charField server.repr
      let name := char (!isPartial) false nameChecks (fields.lookup "name")
      let description := char false true plainChecks (fields.lookup "description")
      let systemPrompt := char false true plainChecks (fields.lookup "system_prompt")
      let botType := choiceField server.repr botTypeChoices (fields.lookup "bot_type")
      let personality := char false true plainChecks (fields.lookup "personality")
      let tone := char false true toneChecks (fields.lookup "tone")
      let fallbackBehavior := char false true plainChecks (fields.lookup "fallback_behavior")
      let allowedDomains := char false false plainChecks (fields.lookup "allowed_domains")
      let selectedLlm := choiceField server.repr llmChoices (fields.lookup "selected_llm")
      let providerConfig := configField server (fields.lookup "provider_config")
      let isActive := activeField (fields.lookup "is_active")
      let errors :=
        errorsOf "name" name ++ errorsOf "description" description ++
          errorsOf "system_prompt" systemPrompt ++ errorsOf "bot_type" botType ++
          errorsOf "personality" personality ++ errorsOf "tone" tone ++
          errorsOf "fallback_behavior" fallbackBehavior ++
          errorsOf "allowed_domains" allowedDomains ++ errorsOf "selected_llm" selectedLlm ++
          errorsOf "provider_config" providerConfig ++ errorsOf "is_active" isActive
      if errors = [] then
        .ok
          { name := valueOf name
            description := valueOf description
            systemPrompt := valueOf systemPrompt
            botType := valueOf botType
            personality := valueOf personality
            tone := valueOf tone
            fallbackBehavior := valueOf fallbackBehavior
            allowedDomains := valueOf allowedDomains
            selectedLlm := valueOf selectedLlm
            providerConfig := valueOf providerConfig
            isActive := valueOf isActive }
      else .error errors
  | .null => .error [("non_field_errors", ["No data provided"])]
  | other =>
      .error [("non_field_errors",
        ["Invalid data. Expected a dictionary, but got " ++ typeName other ++ "."])]

end Serializer

section Views

/-- How a request fails: with a status, with the errors of the serializer, or with an
exception. -/
inductive BotError where
  | status (code : Nat) (message : String)
  | invalid (errors : List (String × List String))
  | raised

inductive BotResponse where
  | ok (bot : Chatbot)
  | created (bot : Chatbot)
  | error (e : BotError)

/-- What can be done with a chatbot. -/
inductive BotAction where
  | update (isPartial : Bool) (data : Json)
  | settings (data : Json)
  | provider (data : Json)
  | publish (publishedAt : String)

/-- The routes of `ChatbotViewSet` that write. -/
inductive BotRoute where
  | create (data : Json) (widgetToken : Uuid)
  | detail (pk : String) (action : BotAction)

/-- A request that passed `JWTAuthentication` as `jwtUser`. -/
structure ApiRequest where
  sessionUser : Option User
  jwtUser : User
  xBotId : Option String
  botIdParam : Option String
  route : BotRoute

/-- The context of a request for one chatbot. -/
def ApiRequest.detailTenant (request : ApiRequest) (pk : String) : Tenant :=
  processView
    { user := request.sessionUser, xBotId := request.xBotId, botIdParam := request.botIdParam }
    { viewClass := some "ChatbotViewSet", kwargs := [("pk", pk)] }

def isSelectedLlm : Json → Bool
  | .str s => s = "selected_llm"
  | _ => false

/-- `provider`: the row to save, absent where the body has no `selected_llm`. -/
def providerRow (data : Json) (bot : Chatbot) : Except BotError (Option Chatbot) :=
  match data with
  | .obj fields =>
      if (fields.lookup "selected_llm").isNone then .ok none
      else
        match providerChoice data with
        | some _ => .ok (some (ChatbotSettings.provider data bot))
        | none => .error (.status 400 "Invalid LLM provider")
  | .arr items => if items.any isSelectedLlm then .error .raised else .ok none
  | .str s => if isSubstring "selected_llm" s then .error .raised else .ok none
  | _ => .error .raised

/-- The row that an action saves, if it saves one. -/
def actionRow (server : BotServer) (bot : Chatbot) : BotAction → Except BotError (Option Chatbot)
  | .update isPartial data =>
      match chatbotSerializer server isPartial data with
      | .ok patch => .ok (some (applyPatch patch bot))
      | .error errors => .error (.invalid errors)
  | .settings data =>
      if settingsSaves data then .ok (some (updateSettings server.repr data bot))
      else .error .raised
  | .provider data => providerRow data bot
  | .publish publishedAt => .ok (some (ChatbotSettings.publish bot publishedAt))

/-- An action on a chatbot that was found: the database may still refuse the row. -/
def performAction (server : BotServer) (db : Accounts) (bot : Chatbot) (action : BotAction) :
    Accounts × BotResponse :=
  match actionRow server bot action with
  | .error e => (db, .error e)
  | .ok none => (db, .ok bot)
  | .ok (some row) =>
      if server.fits row then ({ db with chatbots := db.chatbots.save row }, .ok row)
      else (db, .error .raised)

/-- A request to `create`, with what the serializer leaves of its body. -/
def createRequest (server : BotServer) (request : ApiRequest) (data : Json)
    (widgetToken : Uuid) : CreateRequest where
  sessionUser := request.sessionUser
  jwtUser := request.jwtUser
  xBotId := request.xBotId
  botIdParam := request.botIdParam
  body := (chatbotSerializer server false data).toOption
  widgetToken := widgetToken

/-- The response of `create`; the one to a body that is not valid has the errors
of the serializer. -/
def createResponse (server : BotServer) (data : Json) : CreateResponse → BotResponse
  | .created bot => .created bot
  | .error code message =>
      match chatbotSerializer server false data with
      | .error errors => .error (if code = 400 then .invalid errors else .status code message)
      | .ok _ => .error (.status code message)

/-- `ChatbotViewSet`, as far as it writes. -/
def handle (server : BotServer) (db : Accounts) (request : ApiRequest) : Accounts × BotResponse :=
  match request.route with
  | .create data widgetToken =>
      let out := create db (createRequest server request data widgetToken)
      (out.1, createResponse server data out.2)
  | .detail pk action =>
      match getChatbot db.toDatabase (request.detailTenant pk) request.jwtUser.id pk with
      | .error e => (db, .error (.status e.status e.detail))
      | .ok bot => performAction server db bot action

end Views

section Fields

variable {repr : Json → String} {checks : String → List Check} {value : Option Json}
  {text : String}

theorem charValue_ne_empty {data : Json} (h : charValue repr false data = .ok text) :
    text ≠ "" := by
  unfold charValue at h
  by_cases hblank : strip (str repr data) = ""
  · rw [if_pos hblank] at h
    cases h
  · rw [if_neg hblank] at h
    cases data with
    | str _ | int _ | float _ =>
        rw [← Except.ok.inj h]
        exact hblank
    | _ => cases h

theorem runValidation_ok {found : Except String (Option String)}
    (h : runValidation checks found = .ok (some text)) :
    found = .ok (some text) ∧
      (text = "" ∨ ∀ check ∈ checks text, check.passes = true) := by
  unfold runValidation at h
  split at h
  · cases h
  · cases h
  · rename_i t
    dsimp only at h
    split at h
    · rename_i hpassed
      cases h
      refine ⟨rfl, ?_⟩
      simp only [Bool.or_eq_true, decide_eq_true_eq, List.isEmpty_iff, List.filter_eq_nil_iff,
        Bool.not_eq_true', Bool.not_eq_false] at hpassed
      exact hpassed
    · cases h

theorem charField_ok {required allowBlank : Bool}
    (h : charField repr required allowBlank checks value = .ok (some text)) :
    (text = "" ∧ allowBlank = true) ∨ text ≠ "" ∧ ∀ check ∈ checks text, check.passes = true := by
  unfold charField at h
  split at h
  · split at h
    · cases h
    · cases h
  · rename_i data
    obtain ⟨hvalue, hchecks⟩ := runValidation_ok h
    cases hchar : charValue repr allowBlank data with
    | error message =>
        rw [hchar] at hvalue
        cases hvalue
    | ok found =>
        rw [hchar] at hvalue
        cases hvalue
        by_cases hempty : text = ""
        · refine Or.inl ⟨hempty, ?_⟩
          cases allowBlank with
          | true => rfl
          | false => exact absurd hempty (charValue_ne_empty hchar)
        · exact Or.inr ⟨hempty, hchecks.resolve_left hempty⟩

theorem charField_some {required allowBlank : Bool} {data : Json} {found : Option String}
    (h : charField repr required allowBlank checks (some data) = .ok found) :
    ∃ text, charValue repr allowBlank data = .ok text ∧ found = some text := by
  cases hchar : charValue repr allowBlank data with
  | error message =>
      simp only [charField, hchar, Except.map, runValidation] at h
      cases h
  | ok text =>
      simp only [charField, hchar, Except.map, runValidation] at h
      refine ⟨text, rfl, ?_⟩
      split at h
      · exact (Except.ok.inj h).symm
      · cases h

theorem choiceField_some {choices : List String} {data : Json} {found : Option String}
    (h : choiceField repr choices (some data) = .ok found) : str repr data ∈ choices := by
  unfold choiceField at h
  split at h
  · rename_i hnone
    cases hnone
  · cases h
  · rename_i hsome
    cases hsome
    split at h
    · rename_i hmem
      exact hmem
    · cases h

theorem choiceField_ok {choices : List String}
    (h : choiceField repr choices value = .ok (some text)) : text ∈ choices := by
  unfold choiceField at h
  split at h
  · cases h
  · cases h
  · split at h
    · rename_i hmem
      cases h
      exact hmem
    · cases h

theorem eq_ok_of_errorsOf {α : Type} {field : String} {found : Except (List String) (Option α)}
    (h : errorsOf field found = []) : found = .ok (valueOf found) := by
  cases found with
  | ok value => rfl
  | error messages => cases h

theorem all_valueOf {found : Except (List String) (Option String)} {p : String → Bool}
    (h : ∀ text, found = .ok (some text) → p text = true) : (valueOf found).all p = true := by
  cases found with
  | error messages => rfl
  | ok value =>
      cases value with
      | none => rfl
      | some text => exact h text rfl

/-- The bounds that the serializer sets to a name. -/
def IsName (name : String) : Prop :=
  3 ≤ name.length ∧ name.length ≤ 50

instance (name : String) : Decidable (IsName name) :=
  inferInstanceAs (Decidable (_ ∧ _))

theorem isName_of_nameChecks (h : ∀ check ∈ nameChecks text, check.passes = true) :
    IsName text := by
  simp only [nameChecks, List.forall_mem_cons, maxLength, minLength, decide_eq_true_eq] at h
  exact ⟨h.2.1, h.1⟩

theorem chatbotSerializer_ok {server : BotServer} {isPartial : Bool} {data : Json}
    {patch : ChatbotPatch} (h : chatbotSerializer server isPartial data = .ok patch) :
    ∃ fields, data = .obj fields ∧
      charField server.repr (!isPartial) false nameChecks (fields.lookup "name") =
        .ok patch.name ∧
      choiceField server.repr llmChoices (fields.lookup "selected_llm") =
        .ok patch.selectedLlm ∧
      patch.isValid = true := by
  unfold chatbotSerializer at h
  split at h
  · rename_i fields
    dsimp only at h
    split at h
    · rename_i herrors
      cases h
      simp only [List.append_eq_nil_iff] at herrors
      obtain ⟨⟨⟨⟨⟨⟨⟨⟨⟨⟨hname, -⟩, -⟩, htype⟩, -⟩, htone⟩, -⟩, hdomains⟩, hllm⟩, -⟩, -⟩ := herrors
      refine ⟨fields, rfl, eq_ok_of_errorsOf hname, eq_ok_of_errorsOf hllm, ?_⟩
      simp only [ChatbotPatch.isValid, Bool.and_eq_true]
      refine ⟨⟨⟨⟨?_, ?_⟩, ?_⟩, ?_⟩, ?_⟩
      · refine all_valueOf fun text htext => ?_
        rcases charField_ok htext with ⟨-, hblank⟩ | ⟨-, hchecks⟩
        · cases hblank
        · obtain ⟨hmin, hmax⟩ := isName_of_nameChecks hchecks
          rw [decide_eq_true hmin, decide_eq_true hmax]
          rfl
      · exact all_valueOf fun text htext => decide_eq_true (choiceField_ok htext)
      · refine all_valueOf fun text htext => ?_
        rcases charField_ok htext with ⟨rfl, -⟩ | ⟨-, hchecks⟩
        · rfl
        · exact hchecks (maxLength 100 text) List.mem_cons_self
      · refine all_valueOf fun text htext => ?_
        rcases charField_ok htext with ⟨-, hblank⟩ | ⟨hne, -⟩
        · cases hblank
        · exact decide_eq_true hne
      · exact all_valueOf fun text htext => decide_eq_true (choiceField_ok htext)
    · cases h
  · cases h
  · cases h

end Fields

section Constraints

variable {server : BotServer} {db : Accounts} {request : ApiRequest} {bot : Chatbot}

/-- The documented constraints of a chatbot. -/
def IsConstrained (bot : Chatbot) : Prop :=
  IsName bot.name ∧ bot.selectedLlm ∈ llmChoices

def Constrained (db : Accounts) : Prop :=
  ∀ bot ∈ db.chatbots.rows, IsConstrained bot

/-- A value that the serializer would not take for a name. -/
def BadName (repr : Json → String) (value : Json) : Prop :=
  ∀ name, charValue repr false value = .ok name → ¬ IsName name

def BadChoice (repr : Json → String) (value : Json) : Prop :=
  str repr value ∉ llmChoices

/-- The value of a key of the body. -/
def submitted (data : Json) (key : String) : Option Json :=
  match data with
  | .obj fields => fields.lookup key
  | _ => none

/-- The body selects a language model that is not offered. -/
def BadChoiceIn (server : BotServer) (data : Json) : Prop :=
  ∃ value, submitted data "selected_llm" = some value ∧ BadChoice server.repr value

/-- A body for the serializer with a value that violates the constraints. -/
def BadBody (server : BotServer) (data : Json) : Prop :=
  (∃ value, submitted data "name" = some value ∧ BadName server.repr value) ∨
    BadChoiceIn server data

/-- The values that an action is given for the columns it assigns violate the
constraints.  `update_settings` takes the text of any value for a name. -/
def BotAction.Violates (server : BotServer) : BotAction → Prop
  | .update _ data => BadBody server data
  | .settings data => ∃ value, submitted data "name" = some value ∧
      ∀ name, textColumn server.repr value = some name → ¬ IsName name
  | .provider data => BadChoiceIn server data
  | .publish _ => False

/-- The request submits a value outside the constraints. -/
def Violates (server : BotServer) (request : ApiRequest) : Prop :=
  match request.route with
  | .create data _ => BadBody server data
  | .detail _ action => action.Violates server

def BotResponse.isError : BotResponse → Bool
  | .error _ => true
  | _ => false

def step (server : BotServer) (db : Accounts) (request : ApiRequest) : Accounts :=
  (handle server db request).1

/-- The request keeps the constraints, and is refused where its values violate
them. -/
structure Keeps (server : BotServer) (visit : Accounts × ApiRequest) : Prop where
  constrained : Constrained (step server visit.1 visit.2)
  refused : Violates server visit.2 →
    (handle server visit.1 visit.2).2.isError = true ∧
      (step server visit.1 visit.2).chatbots = visit.1.chatbots

/-- A request of `update_settings` for a chatbot that is found, with a name whose text is outside
the bounds, which the database takes. -/
def SavesBadName (server : BotServer) (visit : Accounts × ApiRequest) : Prop :=
  ∃ pk data bot value name, visit.2.route = .detail pk (.settings data) ∧
    getChatbot visit.1.toDatabase (visit.2.detailTenant pk) visit.2.jwtUser.id pk = .ok bot ∧
    settingsSaves data = true ∧
    server.fits (updateSettings server.repr data bot) = true ∧
    submitted data "name" = some value ∧ textColumn server.repr value = some name ∧ ¬ IsName name

theorem isConstrained_applyPatch {patch : ChatbotPatch} (hvalid : patch.isValid = true)
    (h : IsConstrained bot) : IsConstrained (applyPatch patch bot) := by
  simp only [ChatbotPatch.isValid, Bool.and_eq_true] at hvalid
  obtain ⟨⟨⟨⟨hname, -⟩, -⟩, -⟩, hllm⟩ := hvalid
  unfold applyPatch
  split
  · exact h
  · constructor
    · cases hpatch : patch.name with
      | none => exact h.1
      | some name => simpa [hpatch, IsName] using hname
    · cases hpatch : patch.selectedLlm with
      | none => exact h.2
      | some value => simpa [hpatch] using hllm

theorem isConstrained_provider (data : Json) (h : IsConstrained bot) :
    IsConstrained (ChatbotSettings.provider data bot) := by
  unfold ChatbotSettings.provider
  split
  · split
    · split
      · rename_i hvalue
        exact ⟨h.1, hvalue⟩
      · exact h
    · exact h
  · exact h

theorem selectedLlm_updateSettings (repr : Json → String) (data : Json) (bot : Chatbot) :
    (updateSettings repr data bot).selectedLlm = bot.selectedLlm :=
  column_updateSettings repr (f := .selectedLlm) rfl bot

theorem isConstrained_newChatbot {fields : ChatbotPatch} {name : String} {owner : Nat}
    {widgetToken : Uuid} (hname : fields.name = some name) (hvalid : fields.isValid = true) :
    IsConstrained (newChatbot name fields owner widgetToken) := by
  simp only [ChatbotPatch.isValid, Bool.and_eq_true] at hvalid
  obtain ⟨⟨⟨⟨hlength, -⟩, -⟩, -⟩, hllm⟩ := hvalid
  constructor
  · simpa [hname, IsName, newChatbot] using hlength
  · cases hselected : fields.selectedLlm with
    | none => simp [newChatbot, hselected, llmChoices]
    | some value => simpa [newChatbot, hselected] using hllm

theorem isConstrained_row {created : CreateRequest} {row : Chatbot}
    (h : created.row? = some row) : IsConstrained row := by
  obtain ⟨fields, -, h⟩ := Option.bind_eq_some_iff.mp h
  obtain ⟨name, hname, h⟩ := Option.bind_eq_some_iff.mp h
  split at h
  · rename_i hvalid
    cases h
    exact isConstrained_newChatbot hname hvalid
  · cases h

theorem Constrained.create (h : Constrained db) {row : Chatbot} (hrow : IsConstrained row) :
    ∀ bot ∈ (db.chatbots.create row).rows, IsConstrained bot := by
  intro bot hbot
  rcases (Table.mem_create _ _ _).mp hbot with hold | rfl
  · exact h bot hold
  · exact hrow

theorem Constrained.save (h : Constrained db) {row : Chatbot} (hrow : IsConstrained row) :
    Constrained { db with chatbots := db.chatbots.save row } := by
  intro bot hbot
  rcases (Table.mem_save _ _ _).mp hbot with rfl | ⟨hold, -⟩
  · exact hrow
  · exact h bot hold

theorem not_badBody_of_ok {isPartial : Bool} {data : Json} {patch : ChatbotPatch}
    (h : chatbotSerializer server isPartial data = .ok patch) : ¬ BadBody server data := by
  obtain ⟨fields, rfl, hname, hllm, -⟩ := chatbotSerializer_ok h
  rintro (⟨value, hvalue, hbad⟩ | ⟨value, hvalue, hbad⟩)
  · rw [show fields.lookup "name" = some value from hvalue] at hname
    obtain ⟨text, hchar, hfound⟩ := charField_some hname
    rw [hfound] at hname
    rcases charField_ok hname with ⟨-, hblank⟩ | ⟨-, hchecks⟩
    · cases hblank
    · exact hbad text hchar (isName_of_nameChecks hchecks)
  · rw [show fields.lookup "selected_llm" = some value from hvalue] at hllm
    exact hbad (choiceField_some hllm)

theorem serializer_of_row {data : Json} {widgetToken : Uuid} {row : Chatbot}
    (h : (createRequest server request data widgetToken).row? = some row) :
    ∃ patch, chatbotSerializer server false data = .ok patch := by
  obtain ⟨patch, hbody, -⟩ := Option.bind_eq_some_iff.mp h
  cases hserializer : chatbotSerializer server false data with
  | ok patch => exact ⟨patch, rfl⟩
  | error errors =>
      simp only [createRequest, hserializer] at hbody
      cases hbody

theorem isError_createResponse (server : BotServer) (data : Json) (code : Nat) (message : String) :
    (createResponse server data (.error code message)).isError = true := by
  unfold createResponse
  dsimp only
  split
  · rfl
  · rfl

theorem handle_create {data : Json} {widgetToken : Uuid}
    (hroute : request.route = .create data widgetToken) :
    ((step server db request).chatbots = db.chatbots ∧
        (handle server db request).2.isError = true) ∨
      ∃ row, (createRequest server request data widgetToken).row? = some row ∧
        (step server db request).chatbots = db.chatbots.create row := by
  simp only [step, handle, hroute]
  rcases create_cases db (createRequest server request data widgetToken) with
    ⟨hsame, code, message, herror⟩ | hcreated
  · rw [herror]
    exact Or.inl ⟨hsame, isError_createResponse server data code message⟩
  · exact Or.inr hcreated

theorem keeps_create {data : Json} {widgetToken : Uuid} (h : Constrained db)
    (hroute : request.route = .create data widgetToken) : Keeps server (db, request) := by
  rcases handle_create hroute with ⟨hsame, herror⟩ | ⟨row, hrow, hcreated⟩
  · refine ⟨?_, fun _ => ⟨herror, hsame⟩⟩
    intro bot hbot
    exact h bot (hsame ▸ hbot)
  · refine ⟨?_, ?_⟩
    · intro bot hbot
      exact h.create (isConstrained_row hrow) bot (hcreated ▸ hbot)
    · intro hviolates
      simp only [Violates, hroute] at hviolates
      obtain ⟨patch, hpatch⟩ := serializer_of_row hrow
      exact absurd hviolates (not_badBody_of_ok hpatch)

/-- What an action may do to keep the constraints: the row that it saves meets
them, and it ends without an error only if its values do. -/
structure Respects (server : BotServer) (bot : Chatbot) (action : BotAction) : Prop where
  saved : ∀ row, actionRow server bot action = .ok (some row) → server.fits row = true →
    IsConstrained row ∧ ¬ action.Violates server
  skipped : actionRow server bot action = .ok none → ¬ action.Violates server

theorem respects_update (isPartial : Bool) (data : Json) (h : IsConstrained bot) :
    Respects server bot (.update isPartial data) := by
  constructor
  · intro row hrow _
    simp only [actionRow] at hrow
    split at hrow
    · rename_i patch hpatch
      cases hrow
      obtain ⟨-, -, -, -, hvalid⟩ := chatbotSerializer_ok hpatch
      exact ⟨isConstrained_applyPatch hvalid h, not_badBody_of_ok hpatch⟩
    · cases hrow
  · intro hnone
    simp only [actionRow] at hnone
    split at hnone
    · cases hnone
    · cases hnone

theorem providerChoice_eq_some {fields : Dict} {choice : String}
    (h : providerChoice (.obj fields) = some choice) :
    fields.lookup "selected_llm" = some (.str choice) ∧ choice ∈ llmChoices := by
  simp only [providerChoice] at h
  split at h
  · rename_i value hvalue
    split at h
    · rename_i hmem
      cases h
      exact ⟨hvalue, hmem⟩
    · cases h
  · cases h

theorem respects_provider (data : Json) (h : IsConstrained bot) :
    Respects server bot (.provider data) := by
  constructor
  · intro row hrow _
    simp only [actionRow, providerRow] at hrow
    split at hrow
    · rename_i fields
      split at hrow
      · cases hrow
      · split at hrow
        · rename_i choice hchoice
          cases hrow
          obtain ⟨hlookup, hmem⟩ := providerChoice_eq_some hchoice
          refine ⟨isConstrained_provider _ h, ?_⟩
          rintro ⟨value, hvalue, hbad⟩
          cases hlookup.symm.trans hvalue
          exact hbad hmem
        · cases hrow
    · split at hrow
      · cases hrow
      · cases hrow
    · split at hrow
      · cases hrow
      · cases hrow
    · cases hrow
  · rintro hnone ⟨value, hvalue, -⟩
    cases data with
    | obj fields =>
        have hlookup : fields.lookup "selected_llm" = some value := hvalue
        simp only [actionRow, providerRow, hlookup, Option.isNone_some, Bool.false_eq_true,
          if_false] at hnone
        split at hnone
        · cases hnone
        · cases hnone
    | _ => cases hvalue

theorem respects_publish (publishedAt : String) (h : IsConstrained bot) :
    Respects server bot (.publish publishedAt) := by
  constructor
  · intro row hrow _
    cases hrow
    exact ⟨h, id⟩
  · intro hnone
    cases hnone

theorem exists_assigned (repr : Json → String) {fields : Dict} {field : String}
    (h : (!(fields.lookup field).any isNull) = true) (current : String) :
    ∃ text, assigned repr fields field current = some text := by
  unfold assigned
  cases hlookup : fields.lookup field with
  | none => exact ⟨current, rfl⟩
  | some value =>
      rw [hlookup] at h
      cases value with
      | null => cases h
      | _ => exact ⟨_, rfl⟩

theorem name_updateSettings (repr : Json → String) {data value : Json}
    (hsaves : settingsSaves data = true) (hvalue : submitted data "name" = some value)
    (bot : Chatbot) : textColumn repr value = some (updateSettings repr data bot).name := by
  cases data with
  | obj fields =>
      have hsome := fun field hfield current =>
        exists_assigned repr (List.all_eq_true.mp hsaves field hfield) current
      obtain ⟨name, hname⟩ := hsome "name" (by decide) bot.name
      obtain ⟨description, hdescription⟩ := hsome "description" (by decide) bot.description
      obtain ⟨systemPrompt, hprompt⟩ := hsome "system_prompt" (by decide) bot.systemPrompt
      obtain ⟨allowedDomains, hdomains⟩ := hsome "allowed_domains" (by decide) bot.allowedDomains
      simp only [updateSettings, hname, hdescription, hprompt, hdomains]
      rwa [assigned, show fields.lookup "name" = some value from hvalue] at hname
  | _ => cases hvalue

theorem name_updateSettings_of_none (repr : Json → String) {data : Json}
    (hvalue : submitted data "name" = none) (bot : Chatbot) :
    (updateSettings repr data bot).name = bot.name := by
  cases data with
  | obj fields =>
      have hname : assigned repr fields "name" bot.name = some bot.name := by
        rw [assigned, show fields.lookup "name" = none from hvalue]
      simp only [updateSettings, hname]
      split
      · rename_i hsome _ _ _
        exact (Option.some.inj hsome).symm
      · rfl
  | _ => rfl

theorem respects_settings {data : Json} (h : IsConstrained bot)
    (hname : settingsSaves data = true →
      server.fits (updateSettings server.repr data bot) = true →
        IsName (updateSettings server.repr data bot).name) :
    Respects server bot (.settings data) := by
  constructor
  · intro row hrow hfits
    simp only [actionRow] at hrow
    split at hrow
    · rename_i hsaves
      cases hrow
      -- the saved name is the submitted one, so that both are in the bounds
      have hname := hname hsaves hfits
      refine ⟨⟨hname, ?_⟩, ?_⟩
      · rw [selectedLlm_updateSettings]
        exact h.2
      · rintro ⟨value, hvalue, hbad⟩
        exact hbad _ (name_updateSettings server.repr hsaves hvalue bot) hname
    · cases hrow
  · intro hnone
    simp only [actionRow] at hnone
    split at hnone
    · cases hnone
    · cases hnone

theorem performAction_keeps {action : BotAction} (h : Constrained db)
    (haction : Respects server bot action) :
    Constrained (performAction server db bot action).1 ∧
      (action.Violates server → (performAction server db bot action).2.isError = true ∧
        (performAction server db bot action).1.chatbots = db.chatbots) := by
  unfold performAction
  split
  · exact ⟨h, fun _ => ⟨rfl, rfl⟩⟩
  · rename_i hnone
    exact ⟨h, fun hviolates => absurd hviolates (haction.skipped hnone)⟩
  · rename_i row hrow
    split
    · rename_i hfits
      obtain ⟨hconstrained, hviolates⟩ := haction.saved row hrow hfits
      exact ⟨h.save hconstrained, fun hbad => absurd hbad hviolates⟩
    · exact ⟨h, fun _ => ⟨rfl, rfl⟩⟩

theorem respects_of_names {action : BotAction} (h : IsConstrained bot)
    (hnames : ∀ data, action = .settings data → settingsSaves data = true →
      server.fits (updateSettings server.repr data bot) = true →
        IsName (updateSettings server.repr data bot).name) : Respects server bot action := by
  cases action with
  | update isPartial data => exact respects_update isPartial data h
  | settings data => exact respects_settings h (hnames data rfl)
  | provider data => exact respects_provider data h
  | publish publishedAt => exact respects_publish publishedAt h

theorem handle_found {pk : String} {action : BotAction}
    (hroute : request.route = .detail pk action)
    (hfound : getChatbot db.toDatabase (request.detailTenant pk) request.jwtUser.id pk =
      .ok bot) : handle server db request = performAction server db bot action := by
  simp only [handle, hroute, hfound]

theorem not_constrained_of_savesBadName (h : SavesBadName server (db, request)) :
    ¬ Constrained (step server db request) := by
  obtain ⟨pk, data, bot, value, name, hroute, hfound, hsaves, hfits, hvalue, htext, hname⟩ := h
  cases htext.symm.trans (name_updateSettings server.repr hsaves hvalue bot)
  have hstep : step server db request =
      { db with chatbots := db.chatbots.save (updateSettings server.repr data bot) } := by
    simp only [step, handle_found hroute hfound, performAction, actionRow, hsaves, hfits, if_true]
  intro hconstrained
  rw [hstep] at hconstrained
  exact hname (hconstrained _ ((Table.mem_save _ _ _).mpr (Or.inl rfl))).1

theorem keeps_detail {pk : String} {action : BotAction} (h : Constrained db)
    (hroute : request.route = .detail pk action)
    (hgood : ¬ SavesBadName server (db, request)) : Keeps server (db, request) := by
  cases hfound : getChatbot db.toDatabase (request.detailTenant pk) request.jwtUser.id pk with
  | error e =>
      have hhandle : handle server db request = (db, .error (.status e.status e.detail)) := by
        simp only [handle, hroute, hfound]
      refine ⟨?_, ?_⟩
      · rw [step, hhandle]
        exact h
      · rw [step, hhandle]
        exact fun _ => ⟨rfl, rfl⟩
  | ok bot =>
      have hrespects : Respects server bot action := by
        have hbot := h bot (getChatbot_eq_ok hfound).1
        refine respects_of_names hbot ?_
        rintro data rfl hsaves hfits
        by_contra hname
        cases hvalue : submitted data "name" with
        | none =>
            rw [name_updateSettings_of_none server.repr hvalue] at hname
            exact hname hbot.1
        | some value =>
            exact hgood ⟨pk, data, bot, value, _, hroute, hfound, hsaves, hfits, hvalue,
              name_updateSettings server.repr hsaves hvalue bot, hname⟩
      obtain ⟨hconstrained, hrefused⟩ := performAction_keeps h hrespects
      refine ⟨?_, ?_⟩
      · rw [step, handle_found hroute hfound]
        exact hconstrained
      · rw [step, handle_found hroute hfound, Violates, hroute]
        exact hrefused

theorem keeps_iff (server : BotServer) (db : Accounts) (request : ApiRequest)
    (h : Constrained db) :
    Keeps server (db, request) ↔ ¬ SavesBadName server (db, request) := by
  constructor
  · intro hkeeps hbad
    exact not_constrained_of_savesBadName hbad hkeeps.constrained
  · intro hgood
    cases hroute : request.route with
    | create data widgetToken => exact keeps_create h hroute
    | detail pk action => exact keeps_detail h hroute hgood

/-- Over every run, all chatbots meet the constraints and every request that
violates them is refused, exactly when no request of `update_settings` saves a
name outside the bounds. -/
theorem constraints_run_iff (server : BotServer) (requests : List ApiRequest)
    (h : Constrained db) :
    (∀ visit ∈ visits (step server) db requests, Keeps server visit) ↔
      ∀ visit ∈ visits (step server) db requests, ¬ SavesBadName server visit :=
  kept_visits_iff Constrained (fun _ _ hkeeps => hkeeps.constrained)
    (keeps_iff server) requests h

end Constraints

section Names

/-- The database accepts every row. -/
def sqliteServer : BotServer where
  repr := fun _ => ""
  hasConfig := fun _ => false
  fits := fun _ => true

/-- An action that submits a name, on the first chatbot. -/
def naming (action : Json → BotAction) (name : String) : ApiRequest where
  sessionUser := none
  jwtUser := member
  xBotId := none
  botIdParam := none
  route := .detail "1" (action (.obj [("name", .str name)]))

theorem constrained_fullAccounts : Constrained fullAccounts := by
  intro bot hbot
  rw [List.mem_singleton.mp hbot]
  exact ⟨by decide, by decide⟩

theorem renames_keep :
    (∀ visit ∈ visits (step sqliteServer) fullAccounts
        [naming (.update true) "Sales", naming .settings "Helpdesk"],
      Keeps sqliteServer visit) ∧
    (([naming (.update true) "Sales", naming .settings "Helpdesk"].foldl (step sqliteServer)
        fullAccounts).chatbots.rows.map Chatbot.name) = ["Helpdesk"] := by
  refine ⟨(constraints_run_iff sqliteServer _ constrained_fullAccounts).mpr ?_, by decide +kernel⟩
  intro visit hvisit
  simp only [visits, List.mem_cons, List.not_mem_nil, or_false] at hvisit
  rcases hvisit with rfl | rfl
  · rintro ⟨pk, data, bot, value, name, hroute, -⟩
    cases hroute
  · rintro ⟨pk, data, bot, value, name, hroute, -, -, -, hvalue, htext, hname⟩
    cases hroute
    cases hvalue
    cases htext
    exact hname (by decide : IsName "Helpdesk")

/-- A name of one character is saved by `update_settings`; a PATCH with it is
refused. -/
theorem shortName_saved :
    Violates sqliteServer (naming .settings "x") ∧
      (handle sqliteServer fullAccounts (naming .settings "x")).2.isError = false ∧
      (step sqliteServer fullAccounts (naming .settings "x")).chatbots.rows.map Chatbot.name =
        ["x"] ∧
      (handle sqliteServer fullAccounts (naming (.update true) "x")).2.isError = true ∧
      ¬ Keeps sqliteServer (fullAccounts, naming .settings "x") := by
  have hviolates : Violates sqliteServer (naming .settings "x") := by
    refine ⟨.str "x", rfl, ?_⟩
    intro name hname
    cases hname
    decide
  have hsaved : (handle sqliteServer fullAccounts (naming .settings "x")).2.isError = false := by
    decide +kernel
  refine ⟨hviolates, hsaved, by decide +kernel, by decide +kernel, ?_⟩
  intro hkeeps
  have herror := (hkeeps.refused hviolates).1
  rw [hsaved] at herror
  cases herror

end Names

end Botman.ChatbotConstraints
