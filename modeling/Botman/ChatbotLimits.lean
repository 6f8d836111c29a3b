import Botman.Library.Transition
import Botman.ChatbotSettings
import Botman.TenantPrograms

/-!
`ChatbotViewSet.create` and the limit of the plan.

The chatbots of the user are counted through the tenant-aware manager, so the
count is taken in the context that the middleware made of the session cookie,
the header and the query string.
-/

namespace Botman.ChatbotLimits

open Botman.Library.KeyedTable
open Botman.Library.Transition
open Botman.Library.PythonValue
open Botman.DataModel
open Botman.TenantContext
open Botman.TenantPrograms
open Botman.ChatbotSettings

/-- A row of `Plan`. -/
structure Plan where
  id : Nat
  name : String
  botLimit : Int
  deriving DecidableEq

/-- A row of `Subscription`, of which a user has one. -/
structure Subscription where
  id : Nat
  user : Nat
  plan : Option Nat
  isActive : Bool
  deriving DecidableEq

instance : HasKey Plan where
  key := Plan.id
  withKey := fun n r => { r with id := n }
  key_withKey := fun _ _ => rfl

instance : HasKey Subscription where
  key := Subscription.id
  withKey := fun n r => { r with id := n }
  key_withKey := fun _ _ => rfl

/-- The database with the tables of the plans and the subscriptions. -/
structure Accounts extends Database where
  plans : Table Plan
  subscriptions : Table Subscription

/-- A POST that passed `JWTAuthentication` as `jwtUser`.  The body is there as
the fields of `ChatbotSerializer` after their conversion, absent where one
fails; `widgetToken` is the value that `uuid4` returns. -/
structure CreateRequest where
  sessionUser : Option User
  jwtUser : User
  xBotId : Option String
  botIdParam : Option String
  body : Option ChatbotPatch
  widgetToken : Uuid

/-- The context of a request to create a chatbot. -/
def CreateRequest.tenant (request : CreateRequest) : Tenant :=
  processView
    { user := request.sessionUser, xBotId := request.xBotId, botIdParam := request.botIdParam }
    { viewClass := some "ChatbotViewSet", kwargs := [] }

/-- The responses of `create`. -/
inductive CreateResponse where
  | created (bot : Chatbot)
  | error (status : Nat) (message : String)

/-- The row of the validated fields, with the defaults of the model. -/
def newChatbot (name : String) (fields : ChatbotPatch) (owner : Nat) (widgetToken : Uuid) :
    Chatbot where
  id := 0
  name := name
  description := fields.description.getD ""
  systemPrompt := fields.systemPrompt.getD "You are a helpful AI assistant."
  selectedLlm := fields.selectedLlm.getD "gemini"
  providerConfig := fields.providerConfig.getD none
  botType := fields.botType.getD "custom"
  personality := fields.personality.getD ""
  tone := fields.tone.getD ""
  fallbackBehavior := fields.fallbackBehavior.getD ""
  widgetToken := widgetToken
  allowedDomains := fields.allowedDomains.getD "*"
  isActive := fields.isActive.getD true
  isPublished := false
  publishedConfig := []
  botPromptConfig := .obj []
  formattingConfig := .obj []
  owner := owner

/-- The row that `CreateModelMixin.create` saves, absent where the serializer
is not valid. -/
def CreateRequest.row? (request : CreateRequest) : Option Chatbot :=
  request.body.bind fun fields =>
    fields.name.bind fun name =>
      if fields.isValid then some (newChatbot name fields request.jwtUser.id request.widgetToken)
      else none

/-- `CreateModelMixin.create` with `perform_create`. -/
def createChatbot (db : Accounts) (request : CreateRequest) : Accounts × CreateResponse :=
  match request.row? with
  | none => (db, .error 400 "")
  | some row =>
      ({ db with chatbots := db.chatbots.create row }, .created (db.chatbots.created row))

/-- The subscription of a user. -/
def subscriptionOf (db : Accounts) (user : Nat) : Option Subscription :=
  db.subscriptions.rows.find? fun s => s.user = user

/-- `user.subscription`, created on the free plan where there is none; absent
where no plan is called so. -/
def ensureSubscription (db : Accounts) (user : Nat) : Option (Accounts × Subscription) :=
  match subscriptionOf db user with
  | some subscription => some (db, subscription)
  | none =>
      (db.plans.rows.find? fun p => p.name = "Free").map fun plan =>
        let row : Subscription := { id := 0, user := user, plan := some plan.id, isActive := true }
        ({ db with subscriptions := db.subscriptions.create row }, db.subscriptions.created row)

/-- `Chatbot.objects.filter(owner=user).count()`. -/
def botCount (db : Database) (tenant : Tenant) (user : Nat) : Option Nat :=
  (getQueryset db chatbotModel tenant db.chatbots.rows).map fun rows =>
    (rows.filter fun bot => bot.owner = user).length

/-- `ChatbotViewSet.create`. -/
def create (db : Accounts) (request : CreateRequest) : Accounts × CreateResponse :=
  let user := request.jwtUser
  if user.isSuperuser then createChatbot db request
  else
    match botCount db.toDatabase request.tenant user.id with
    | none => (db, .error 500 "")
    | some count =>
        match ensureSubscription db user.id with
        | none => (db, .error 500 "")
        | some (db, subscription) =>
            match subscription.plan.bind db.plans.get? with
            | none => createChatbot db request
            | some plan =>
                if plan.botLimit ≤ (count : Int) then
                  (db, .error 403 "Bot limit reached. Upgrade your plan to create more bots.")
                else createChatbot db request

theorem createChatbot_cases (db : Accounts) (request : CreateRequest) :
    ((createChatbot db request).1.chatbots = db.chatbots ∧
        ∃ status message, (createChatbot db request).2 = .error status message) ∨
      ∃ row, request.row? = some row ∧
        (createChatbot db request).1.chatbots = db.chatbots.create row := by
  unfold createChatbot
  split
  · exact Or.inl ⟨rfl, _, _, rfl⟩
  · rename_i row hrow
    exact Or.inr ⟨row, hrow, rfl⟩

theorem ensureSubscription_chatbots {db db' : Accounts} {user : Nat} {subscription : Subscription}
    (h : ensureSubscription db user = some (db', subscription)) :
    db'.chatbots = db.chatbots := by
  unfold ensureSubscription at h
  split at h
  · cases h
    rfl
  · obtain ⟨plan, -, hplan⟩ := Option.map_eq_some_iff.mp h
    cases hplan
    rfl

theorem create_cases (db : Accounts) (request : CreateRequest) :
    ((create db request).1.chatbots = db.chatbots ∧
        ∃ status message, (create db request).2 = .error status message) ∨
      ∃ row, request.row? = some row ∧
        (create db request).1.chatbots = db.chatbots.create row := by
  unfold create
  dsimp only
  split
  · exact createChatbot_cases db request
  · split
    · exact Or.inl ⟨rfl, _, _, rfl⟩
    · split
      · exact Or.inl ⟨rfl, _, _, rfl⟩
      · rename_i subscribed _ hsubscribed
        have hsame := ensureSubscription_chatbots hsubscribed
        rw [← hsame]
        split
        · exact createChatbot_cases subscribed request
        · split
          · exact Or.inl ⟨rfl, _, _, rfl⟩
          · exact createChatbot_cases subscribed request

/-- The limit of the user's plan. -/
def planLimit (db : Accounts) (user : Nat) : Option Int :=
  (subscriptionOf db user).bind fun subscription =>
    (subscription.plan.bind db.plans.get?).map Plan.botLimit

/-- The chatbots of a user, whatever a context shows. -/
def ownedCount (db : Database) (user : Nat) : Nat :=
  (db.chatbots.rows.filter fun bot => bot.owner = user).length

/-- The request adds a chatbot. -/
def Creates (db : Accounts) (request : CreateRequest) : Prop :=
  db.chatbots.rows.length < (create db request).1.chatbots.rows.length

/-- The chatbots of a user that the context shows, which is what `create` counts. -/
def shownCount (db : Database) (tenant : Tenant) (user : Nat) : Nat :=
  (db.chatbots.rows.filter fun bot =>
    decide (bot.owner = user) && decide (Shows db tenant (some bot.id))).length

theorem botCount_eq (db : Database) (tenant : Tenant) (user : Nat) :
    botCount db tenant user =
      if isMalformed tenant then none else some (shownCount db tenant user) := by
  unfold botCount shownCount
  rw [getQueryset_eq (followsChatbot_chatbot db) tenant]
  split
  · rfl
  · rw [Option.map_some, List.filter_filter]

/-- The context hides no chatbot of the user. -/
def SeesAll (tenant : Tenant) (user : Nat) : Prop :=
  tenant.isSuperuser = true ∨
    ((setUser tenant = none ∨ setUser tenant = some user) ∧ setBot tenant = none)

/-- The context names a chatbot of the user. -/
def NamesOwn (db : Database) (tenant : Tenant) (user : Nat) : Prop :=
  (setUser tenant = none ∨ setUser tenant = some user) ∧
    ∃ bot ∈ db.chatbots.rows, bot.owner = user ∧
      (setBot tenant).bind BotRef.int? = some (Int.ofNat bot.id)

theorem shows_own_iff {db : Database} {bot : Chatbot} (hbot : bot ∈ db.chatbots.rows)
    (tenant : Tenant) :
    Shows db tenant (some bot.id) ↔
      SeesAll tenant bot.owner ∨
        ((setUser tenant = none ∨ setUser tenant = some bot.owner) ∧
          (setBot tenant).bind BotRef.int? = some (Int.ofNat bot.id)) := by
  have howner : (some bot.id).bind (ownerOfChatbot db) = some bot.owner :=
    ownerOfChatbot_of_mem hbot
  unfold Shows SeesAll
  rw [howner, Option.map_some, eq_comm (a := some bot.owner),
    eq_comm (a := some (Int.ofNat bot.id))]
  tauto

theorem shownCount_of_seesAll {db : Database} {tenant : Tenant} {user : Nat}
    (h : SeesAll tenant user) : shownCount db tenant user = ownedCount db user := by
  unfold shownCount ownedCount
  congr 1
  refine List.filter_congr fun bot hbot => ?_
  by_cases howner : bot.owner = user
  · have hshows : Shows db tenant (some bot.id) :=
      (shows_own_iff hbot tenant).mpr (Or.inl (howner ▸ h))
    simp [hshows]
  · simp [howner]

theorem shownCount_le_one {db : Database} {tenant : Tenant} {user : Nat}
    (h : ¬SeesAll tenant user) : shownCount db tenant user ≤ 1 := by
  -- a context that does not show all of them shows the one that it names, if any
  have hkey : ∀ bot ∈ db.chatbots.rows,
      (decide (bot.owner = user) && decide (Shows db tenant (some bot.id))) = true →
        (setBot tenant).bind BotRef.int? = some (Int.ofNat bot.id) := by
    intro bot hbot hshown
    simp only [Bool.and_eq_true, decide_eq_true_eq] at hshown
    obtain ⟨rfl, hshows⟩ := hshown
    rcases (shows_own_iff hbot tenant).mp hshows with hall | hone
    · exact absurd hall h
    · exact hone.2
  refine db.chatbots.length_filter_le_one fun r hr s hs hpr hps => ?_
  have hrs := (hkey r hr hpr).symm.trans (hkey s hs hps)
  exact Int.ofNat.inj (Option.some.inj hrs)

theorem shownCount_pos_iff {db : Database} {tenant : Tenant} {user : Nat}
    (h : ¬SeesAll tenant user) :
    0 < shownCount db tenant user ↔ NamesOwn db tenant user := by
  rw [shownCount, List.length_pos_iff_exists_mem]
  simp only [List.mem_filter, Bool.and_eq_true, decide_eq_true_eq]
  constructor
  · rintro ⟨bot, hbot, rfl, hshows⟩
    rcases (shows_own_iff hbot tenant).mp hshows with hall | hone
    · exact absurd hall h
    · exact ⟨hone.1, bot, hbot, rfl, hone.2⟩
  · rintro ⟨huser, bot, hbot, rfl, hkey⟩
    exact ⟨bot, hbot, rfl, (shows_own_iff hbot tenant).mpr (Or.inr ⟨huser, hkey⟩)⟩

theorem le_shownCount_iff {db : Database} {tenant : Tenant} {user : Nat} {limit : Int}
    (hfull : limit ≤ ownedCount db user) :
    limit ≤ shownCount db tenant user ↔
      SeesAll tenant user ∨ limit ≤ 0 ∨ (limit = 1 ∧ NamesOwn db tenant user) := by
  by_cases hall : SeesAll tenant user
  · rw [shownCount_of_seesAll hall]
    exact ⟨fun _ => Or.inl hall, fun _ => hfull⟩
  · have hle : shownCount db tenant user ≤ 1 := shownCount_le_one hall
    rw [← shownCount_pos_iff hall]
    constructor
    · intro hlimit
      omega
    · rintro (hsees | hlimit)
      · exact absurd hsees hall
      · omega

theorem creates_iff {db : Accounts} {request : CreateRequest} {limit : Int}
    (hsuper : request.jwtUser.isSuperuser = false)
    (hplan : planLimit db request.jwtUser.id = some limit) :
    Creates db request ↔
      request.row?.isSome = true ∧ isMalformed request.tenant = false ∧
        (shownCount db.toDatabase request.tenant request.jwtUser.id : Int) < limit := by
  obtain ⟨subscription, hsubscription, hlimit⟩ := Option.bind_eq_some_iff.mp hplan
  obtain ⟨plan, hbind, rfl⟩ := Option.map_eq_some_iff.mp hlimit
  simp only [Creates, create, hsuper, Bool.false_eq_true, if_false, botCount_eq,
    ensureSubscription, hsubscription]
  cases isMalformed request.tenant with
  | true => simp
  | false =>
      simp only [Bool.false_eq_true, if_false, hbind]
      split
      · rename_i hreached
        simp [not_lt.mpr hreached]
      · rename_i hreached
        unfold createChatbot
        cases request.row? with
        | none => simp
        | some row => simp [not_le.mp hreached]

/-- What the request must be for the limit to hold: the user is below it; or
nothing is created anyway; or the context hides no chatbot of the user, or
leaves one where the limit is one. -/
def KeepsLimit (db : Accounts) (limit : Int) (request : CreateRequest) : Prop :=
  (ownedCount db.toDatabase request.jwtUser.id : Int) < limit ∨
    request.row? = none ∨ isMalformed request.tenant = true ∨
    SeesAll request.tenant request.jwtUser.id ∨ limit ≤ 0 ∨
    (limit = 1 ∧ NamesOwn db.toDatabase request.tenant request.jwtUser.id)

theorem creates_below_limit_iff {db : Accounts} {request : CreateRequest} {limit : Int}
    (hsuper : request.jwtUser.isSuperuser = false)
    (hplan : planLimit db request.jwtUser.id = some limit) :
    (Creates db request → (ownedCount db.toDatabase request.jwtUser.id : Int) < limit) ↔
      KeepsLimit db limit request := by
  rw [creates_iff hsuper hplan, KeepsLimit]
  by_cases hbelow : (ownedCount db.toDatabase request.jwtUser.id : Int) < limit
  · exact ⟨fun _ => Or.inl hbelow, fun _ _ => hbelow⟩
  · rw [← le_shownCount_iff (not_lt.mp hbelow), ← not_lt]
    cases request.row? with
    | none => simp
    | some row =>
        cases isMalformed request.tenant with
        | true => simp
        | false => simp [hbelow]

theorem planLimit_create {db : Accounts} {request : CreateRequest} {limit : Int}
    (hplan : planLimit db request.jwtUser.id = some limit) :
    planLimit (create db request).1 request.jwtUser.id = some limit := by
  have hchatbot : ∀ db : Accounts, planLimit (createChatbot db request).1 request.jwtUser.id =
      planLimit db request.jwtUser.id := by
    intro db
    unfold createChatbot
    split <;> rfl
  obtain ⟨subscription, hsubscription, -⟩ := Option.bind_eq_some_iff.mp hplan
  simp only [create, ensureSubscription, hsubscription]
  split
  · exact (hchatbot db).trans hplan
  · split
    · exact hplan
    · split
      · exact (hchatbot db).trans hplan
      · split
        · exact hplan
        · exact (hchatbot db).trans hplan

/-- The requests of a run, each with the database it is handled in. -/
def served (db : Accounts) (requests : List CreateRequest) : List (Accounts × CreateRequest) :=
  visits (fun db request => (create db request).1) db requests

def member : User where
  id := 1
  isSuperuser := false
  role := .user
  id_pos := Nat.one_pos

def fieldsNamed (name : String) : ChatbotPatch where
  name := some name
  description := none
  systemPrompt := none
  botType := none
  personality := none
  tone := none
  fallbackBehavior := none
  allowedDomains := none
  selectedLlm := none
  providerConfig := none
  isActive := none

/-- A member of the free plan, who has the one chatbot that it allows. -/
def fullAccounts : Accounts where
  toDatabase :=
    { Database.empty with
      chatbots := Table.empty.create (newChatbot "First" (fieldsNamed "First") member.id 0) }
  plans := Table.empty.create { id := 0, name := "Free", botLimit := 1 }
  subscriptions := Table.empty.create { id := 0, user := 1, plan := some 1, isActive := true }

/-- The member asks for a second one, with a header that names a chatbot or
without. -/
def secondChatbot (xBotId : Option String) : CreateRequest where
  sessionUser := none
  jwtUser := member
  xBotId := xBotId
  botIdParam := none
  body := some (fieldsNamed "Second")
  widgetToken := 1

instance (db : Accounts) (request : CreateRequest) : Decidable (Creates db request) :=
  inferInstanceAs (Decidable (_ < _))

end Botman.ChatbotLimits
