import Botman.AnalyticsConservation
import Botman.KnowledgeApi
import Botman.TelegramApi

/-!
`ConnectTelegramBotView`: a user connects a chatbot to a Telegram bot by its
token, which is stored encrypted, in a column that is unique.

Fernet encrypts with random bytes, so the column does not tell two encryptions
of one token from encryptions of two tokens.
-/

namespace Botman.TelegramConnect

open Botman.Library.KeyedTable
open Botman.Library.PythonValue
open Botman.Library.Transition
open Botman.DataModel
open Botman.TenantContext
open Botman.TenantPrograms
open Botman.ChatEffects
open Botman.AnalyticsTask
open Botman.AnalyticsConservation
open Botman.KnowledgeApi (accountOne)

section View

/-- The Fernet cipher with the key of the deployment; the first argument of
`encrypt` are its random bytes. -/
structure Cipher where
  encrypt : Nat → String → String
  decrypt : String → Option String
  encrypt_ne_empty : ∀ nonce token, encrypt nonce token ≠ ""
  decrypt_encrypt : ∀ nonce token, decrypt (encrypt nonce token) = some token

/-- `encrypt_token`. -/
def encryptToken (cipher : Cipher) (nonce : Nat) (token : String) : String :=
  if token = "" then "" else cipher.encrypt nonce token

/-- `decrypt_token`; a text that is no token of the key gives the empty text. -/
def decryptToken (cipher : Cipher) (encrypted : String) : String :=
  if encrypted = "" then "" else (cipher.decrypt encrypted).getD ""

/-- A request that passed `JWTAuthentication` as `jwtUser`, with what the
Telegram API will answer to it and the random values it will draw.  The bot is
absent where the token is not verified; `fits` is the check of the database on
the lengths of the columns. -/
structure ConnectRequest where
  sessionUser : Option User
  jwtUser : User
  xBotId : Option String
  botIdParam : Option String
  data : Json
  botInfo : Option (Option String)
  webhookSet : Bool
  lastError : Option String
  baseUrl : String
  secret : String
  nonce : Nat
  fits : TelegramIntegration → Bool

/-- The context of a request to connect a bot. -/
def ConnectRequest.tenant (request : ConnectRequest) : Tenant :=
  processView
    { user := request.sessionUser, xBotId := request.xBotId, botIdParam := request.botIdParam }
    { viewClass := some "ConnectTelegramBotView", kwargs := [] }

/-- The responses of the view. -/
inductive ConnectResponse where
  | error (status : Nat) (message : String)
  | failed
  | connected (username : Option String) (webhookUrl : String)
  deriving DecidableEq

/-- `get_object_or_404(Chatbot, id=bot_id, owner=request.user)`, absent where it
raises something else. -/
def ownedChatbots (store : Store) (request : ConnectRequest) (botId : Json) :
    Option (List Chatbot) :=
  (intOf botId).bind fun key =>
    (getQueryset store.toDatabase chatbotModel request.tenant store.chatbots.rows).map fun rows =>
      rows.filter fun bot => (bot.id : Int) = key && bot.owner = request.jwtUser.id

/-- The URL that Telegram is to call. -/
def webhookUrl (request : ConnectRequest) (bot : Chatbot) : String :=
  request.baseUrl ++ "/api/integrations/telegram/webhook/" ++ toString bot.id ++ "/?secret=" ++
    request.secret

/-- The view up to its verification of the token: the chatbot, the token and the name of the
Telegram bot, or the response. -/
def verified (store : Store) (request : ConnectRequest) :
    Except ConnectResponse (Chatbot × Json × Option String) :=
  match request.data with
  | .obj fields =>
      let botId := get fields "bot_id"
      let token := get fields "telegram_bot_token"
      if truthy botId = false ∨ truthy token = false then
        .error (.error 400 "bot_id and telegram_bot_token are required")
      else
        match ownedChatbots store request botId, request.botInfo with
        | none, _ => .error .failed
        | some [], _ => .error (.error 404 "Resource not found.")
        | some (_ :: _), none => .error (.error 400 "Invalid Telegram Bot Token")
        | some (bot :: _), some username => .ok (bot, token, username)
  | _ => .error .failed

/-- The arguments of a call of `TelegramService.set_telegram_webhook`. -/
structure WebhookCall where
  token : Json
  url : String

/-- The call by which the view registers its URL with Telegram. -/
def webhookCall (store : Store) (request : ConnectRequest) : Option WebhookCall :=
  match verified store request with
  | .ok (bot, token, _) => some { token := token, url := webhookUrl request bot }
  | .error _ => none

/-- The checks of the view: it goes on only where Telegram has taken the URL. -/
def checked (store : Store) (request : ConnectRequest) :
    Except ConnectResponse (Chatbot × Json × Option String) :=
  match verified store request with
  | .error response => .error response
  | .ok found =>
      if request.webhookSet then .ok found
      else .error (.error 500 ("Failed to set Telegram webhook. " ++ request.lastError.getD ""))

/-- What the view assigns to the integration before it saves it. -/
def assigned (cipher : Cipher) (request : ConnectRequest) (bot : Chatbot) (token : String)
    (username : Option String) (row : TelegramIntegration) : TelegramIntegration :=
  { row with
    telegramBotTokenEncrypted := encryptToken cipher request.nonce token
    telegramBotUsername := username
    webhookUrl := some (webhookUrl request bot)
    isActive := true }

def newIntegration (bot : Chatbot) : TelegramIntegration where
  id := 0
  chatbot := bot.id
  telegramBotTokenEncrypted := ""
  telegramBotUsername := none
  webhookUrl := none
  isActive := true

/-- The two unique columns: another row has the chatbot or the ciphertext. -/
def conflicts (table : Table TelegramIntegration) (row : TelegramIntegration) : Bool :=
  table.rows.any fun r =>
    r.id ≠ row.id &&
      (r.chatbot = row.chatbot || r.telegramBotTokenEncrypted = row.telegramBotTokenEncrypted)

/-- `TelegramIntegration.objects.update_or_create(chatbot=chatbot, defaults=...)`,
absent where it raises. -/
def updateOrCreate (store : Store) (tenant : Tenant) (bot : Chatbot)
    (fits : TelegramIntegration → Bool)
    (assign : TelegramIntegration → TelegramIntegration) : Option (Table TelegramIntegration) :=
  let table := store.telegramIntegrations
  match (getQueryset store.toDatabase telegramIntegrationModel tenant table.rows).map fun rows =>
    rows.filter fun r => r.chatbot = bot.id with
  | some [] =>
      let row := assign (newIntegration bot)
      if fits row && !conflicts table (table.created row) then some (table.create row) else none
  | some [existing] =>
      let row := assign existing
      if fits row && !conflicts table row then some (table.save row) else none
  | _ => none

/-- `ConnectTelegramBotView.post`.  A token that is not a text is verified like
one, and cannot be encrypted. -/
def connectTelegramBot (cipher : Cipher) (store : Store) (request : ConnectRequest) :
    Store × ConnectResponse :=
  match checked store request with
  | .error response => (store, response)
  | .ok (bot, .str token, username) =>
      match updateOrCreate store request.tenant bot request.fits
        (assigned cipher request bot token username) with
      | none => (store, .failed)
      | some integrations =>
          ({ store with telegramIntegrations := integrations },
            .connected username (webhookUrl request bot))
  | .ok _ => (store, .failed)

end View

section Steps

variable {cipher : Cipher} {store : Store} {request : ConnectRequest}

/-- A row is inserted, or saved over the row of its chatbot. -/
structure Replaces (before after : Table TelegramIntegration) (row : TelegramIntegration) :
    Prop where
  mem_iff : ∀ r, r ∈ after.rows ↔ r = row ∨ r ∈ before.rows ∧ r.id ≠ row.id
  chatbot : ∀ r ∈ before.rows, r.id = row.id → r.chatbot = row.chatbot

theorem replaces_create (table : Table TelegramIntegration) (row : TelegramIntegration) :
    Replaces table (table.create row) (table.created row) := by
  have hfresh : ∀ r ∈ table.rows, r.id ≠ (table.created row).id := fun r hr =>
    Nat.ne_of_lt (table.fresh r hr)
  refine ⟨?_, fun r hr hid => absurd hid (hfresh r hr)⟩
  intro r
  rw [Table.mem_create, or_comm]
  exact or_congr_right ⟨fun hr => ⟨hr, hfresh r hr⟩, fun hr => hr.1⟩

theorem replaces_save {table : Table TelegramIntegration} {existing row : TelegramIntegration}
    (hexisting : existing ∈ table.rows) (hid : row.id = existing.id)
    (hchatbot : row.chatbot = existing.chatbot) : Replaces table (table.save row) row := by
  refine ⟨table.mem_save row, ?_⟩
  intro r hr hkey
  rw [hchatbot, table.eq_of_key_eq hr hexisting (hkey.trans hid)]

theorem Replaces.mem_other {before after : Table TelegramIntegration}
    {row : TelegramIntegration} (h : Replaces before after row) {chatbot : Nat}
    (hother : row.chatbot ≠ chatbot) (r : TelegramIntegration) :
    r ∈ after.rows ∧ r.chatbot = chatbot ↔ r ∈ before.rows ∧ r.chatbot = chatbot := by
  rw [h.mem_iff]
  constructor
  · rintro ⟨rfl | ⟨hr, -⟩, hchatbot⟩
    · exact absurd hchatbot hother
    · exact ⟨hr, hchatbot⟩
  · rintro ⟨hr, hchatbot⟩
    refine ⟨Or.inr ⟨hr, fun hid => hother ?_⟩, hchatbot⟩
    rw [← h.chatbot r hr hid, hchatbot]

/-- The row that a connection of a chatbot leaves, in place of an earlier one. -/
structure Stores (cipher : Cipher) (request : ConnectRequest) (bot : Chatbot) (token : String)
    (before after : Table TelegramIntegration) (row : TelegramIntegration) : Prop
    extends Replaces before after row where
  chatbot_eq : row.chatbot = bot.id
  token_eq : row.telegramBotTokenEncrypted = encryptToken cipher request.nonce token
  url_eq : row.webhookUrl = some (webhookUrl request bot)
  active : row.isActive = true
  only : ∀ r ∈ before.rows, r.id ≠ row.id → r.chatbot ≠ bot.id

theorem chatbot_ne_of_not_conflicts {table : Table TelegramIntegration}
    {row : TelegramIntegration} (h : conflicts table row = false) :
    ∀ r ∈ table.rows, r.id ≠ row.id → r.chatbot ≠ row.chatbot := by
  intro r hr hid hchatbot
  have hnone := List.any_eq_false.mp h r hr
  simp [hid, hchatbot] at hnone

theorem stores_updateOrCreate {tenant : Tenant} {bot : Chatbot}
    {fits : TelegramIntegration → Bool} {username : Option String} {token : String}
    {integrations : Table TelegramIntegration}
    (h : updateOrCreate store tenant bot fits (assigned cipher request bot token username) =
      some integrations) :
    ∃ row, Stores cipher request bot token store.telegramIntegrations integrations row := by
  unfold updateOrCreate at h
  dsimp only at h
  split at h
  · split at h
    · rename_i hsaved
      cases h
      simp only [Bool.and_eq_true, Bool.not_eq_true'] at hsaved
      exact ⟨_, replaces_create _ _, rfl, rfl, rfl, rfl, chatbot_ne_of_not_conflicts hsaved.2⟩
    · cases h
  · rename_i existing hfound
    obtain ⟨rows, hrows, hfilter⟩ := Option.map_eq_some_iff.mp hfound
    have hmem : existing ∈ rows.filter fun r => r.chatbot = bot.id := by
      rw [hfilter]
      exact List.mem_singleton_self existing
    obtain ⟨hvisible, hbot⟩ := List.mem_filter.mp hmem
    have hbot : existing.chatbot = bot.id := of_decide_eq_true hbot
    split at h
    · rename_i hsaved
      cases h
      simp only [Bool.and_eq_true, Bool.not_eq_true'] at hsaved
      have hstored := mem_of_mem_getQueryset hrows existing hvisible
      refine ⟨_, replaces_save hstored rfl rfl, hbot, rfl, rfl, rfl, ?_⟩
      exact hbot ▸ chatbot_ne_of_not_conflicts hsaved.2
    · cases h
  · cases h

theorem not_connected_of_verified {username : Option String} {url : String} :
    verified store request ≠ .error (.connected username url) := by
  unfold verified
  split
  · dsimp only
    split
    · simp
    · split
      · simp
      · simp
      · simp
      · simp
  · simp

theorem checked_eq_ok_iff {found : Chatbot × Json × Option String} :
    checked store request = .ok found ↔
      verified store request = .ok found ∧ request.webhookSet = true := by
  unfold checked
  cases verified store request with
  | error response => simp
  | ok other => cases request.webhookSet <;> simp

theorem not_connected_of_checked {username : Option String} {url : String} :
    checked store request ≠ .error (.connected username url) := by
  unfold checked
  cases hverified : verified store request with
  | error response =>
      rintro ⟨⟩
      exact not_connected_of_verified hverified
  | ok found => cases request.webhookSet <;> simp

theorem connect_cases (cipher : Cipher) (store : Store) (request : ConnectRequest) :
    (connectTelegramBot cipher store request).1 = store ∧
        (∀ username url, (connectTelegramBot cipher store request).2 ≠ .connected username url) ∨
      ∃ bot token username row, checked store request = .ok (bot, .str token, username) ∧
        (connectTelegramBot cipher store request).2 =
          .connected username (webhookUrl request bot) ∧
        Stores cipher request bot token store.telegramIntegrations
          (connectTelegramBot cipher store request).1.telegramIntegrations row := by
  unfold connectTelegramBot
  split
  · rename_i response hchecked
    refine Or.inl ⟨rfl, ?_⟩
    rintro username url rfl
    exact not_connected_of_checked hchecked
  · rename_i bot token username hchecked
    split
    · exact Or.inl ⟨rfl, by simp⟩
    · rename_i integrations hupdated
      obtain ⟨row, hstores⟩ := stores_updateOrCreate hupdated
      exact Or.inr ⟨bot, token, username, row, hchecked, rfl, hstores⟩
  · exact Or.inl ⟨rfl, by simp⟩

theorem connected_of_checked {bot : Chatbot} {token : String} {username : Option String}
    (hchecked : checked store request = .ok (bot, .str token, username))
    (hsaved : (updateOrCreate store request.tenant bot request.fits
      (assigned cipher request bot token username)).isSome = true) :
    (connectTelegramBot cipher store request).2 =
      .connected username (webhookUrl request bot) := by
  obtain ⟨integrations, hsome⟩ := Option.isSome_iff_exists.mp hsaved
  simp only [connectTelegramBot, hchecked, hsome]

theorem isSome_of_connected {bot : Chatbot} {token url : String} {username : Option String}
    (hchecked : checked store request = .ok (bot, .str token, username))
    (hconnected : (connectTelegramBot cipher store request).2 = .connected username url) :
    (updateOrCreate store request.tenant bot request.fits
      (assigned cipher request bot token username)).isSome = true := by
  simp only [connectTelegramBot, hchecked] at hconnected
  split at hconnected
  · cases hconnected
  · rename_i hsome
    rw [hsome]
    rfl

end Steps

section Tokens

variable {cipher : Cipher}

theorem decryptToken_encryptToken (cipher : Cipher) (nonce : Nat) (token : String) :
    decryptToken cipher (encryptToken cipher nonce token) = token := by
  unfold encryptToken
  split
  · rename_i hempty
    rw [hempty]
    rfl
  · rw [decryptToken, if_neg (cipher.encrypt_ne_empty nonce token), cipher.decrypt_encrypt]
    rfl

/-- `integration.telegram_bot_token`. -/
def telegramBotToken (cipher : Cipher) (row : TelegramIntegration) : String :=
  decryptToken cipher row.telegramBotTokenEncrypted

/-- No Telegram bot is connected to two chatbots. -/
def OneChatbot (cipher : Cipher) (table : Table TelegramIntegration) : Prop :=
  ∀ r ∈ table.rows, ∀ s ∈ table.rows, r.chatbot ≠ s.chatbot →
    telegramBotToken cipher r ≠ telegramBotToken cipher s

instance (cipher : Cipher) (table : Table TelegramIntegration) :
    Decidable (OneChatbot cipher table) :=
  inferInstanceAs (Decidable (∀ r ∈ table.rows, ∀ s ∈ table.rows, _))

theorem Replaces.oneChatbot_iff {before after : Table TelegramIntegration}
    {row : TelegramIntegration} (h : Replaces before after row)
    (hbefore : OneChatbot cipher before) :
    OneChatbot cipher after ↔ ∀ r ∈ before.rows, r.chatbot ≠ row.chatbot →
      telegramBotToken cipher r ≠ telegramBotToken cipher row := by
  constructor
  · intro hafter r hr hchatbot
    have hid : r.id ≠ row.id := fun hid => hchatbot (h.chatbot r hr hid)
    exact hafter r ((h.mem_iff r).mpr (Or.inr ⟨hr, hid⟩)) row ((h.mem_iff row).mpr (Or.inl rfl))
      hchatbot
  · intro hothers r hr s hs hchatbot
    rcases (h.mem_iff r).mp hr with rfl | ⟨hr, -⟩
    · rcases (h.mem_iff s).mp hs with rfl | ⟨hs, -⟩
      · exact absurd rfl hchatbot
      · exact (hothers s hs hchatbot.symm).symm
    · rcases (h.mem_iff s).mp hs with rfl | ⟨hs, -⟩
      · exact hothers r hr hchatbot
      · exact hbefore r hr s hs hchatbot

/-- The request passes the checks of the view and of the database for a token that the row
of another chatbot has. -/
def TakesToken (cipher : Cipher) (store : Store) (request : ConnectRequest) : Prop :=
  ∃ bot token username, checked store request = .ok (bot, .str token, username) ∧
    (updateOrCreate store request.tenant bot request.fits
      (assigned cipher request bot token username)).isSome = true ∧
    ∃ r ∈ store.telegramIntegrations.rows, r.chatbot ≠ bot.id ∧
      telegramBotToken cipher r = token

/-- A request to connect a bot, or a change of the other tables. -/
inductive Event where
  | connect (request : ConnectRequest)
  | change (db : Database) (sessions : Table Session)

def step (cipher : Cipher) (store : Store) : Event → Store
  | .connect request => (connectTelegramBot cipher store request).1
  | .change db sessions => changeStore store db sessions

/-- A request does not take the token of another chatbot. -/
def LeavesTokens (cipher : Cipher) : Store × Event → Prop
  | (store, .connect request) => ¬ TakesToken cipher store request
  | (_, .change _ _) => True

theorem oneChatbot_connect_iff {store : Store} (request : ConnectRequest)
    (h : OneChatbot cipher store.telegramIntegrations) :
    OneChatbot cipher (connectTelegramBot cipher store request).1.telegramIntegrations ↔
      ¬ TakesToken cipher store request := by
  rcases connect_cases cipher store request with
    ⟨hsame, hnot⟩ | ⟨bot, token, username, row, hchecked, hconnected, hstores⟩
  · rw [hsame]
    refine iff_of_true h ?_
    rintro ⟨bot, token, username, hchecked, hsaved, -⟩
    exact hnot username _ (connected_of_checked hchecked hsaved)
  · have hrow : telegramBotToken cipher row = token := by
      rw [telegramBotToken, hstores.token_eq, decryptToken_encryptToken]
    rw [hstores.toReplaces.oneChatbot_iff h, hstores.chatbot_eq, hrow]
    constructor
    · rintro hothers ⟨bot', token', username', hchecked', -, r, hr, hother, hsame⟩
      cases hchecked.symm.trans hchecked'
      exact hothers r hr hother hsame
    · intro hnot r hr hother hsame
      exact hnot ⟨bot, token, username, hchecked, isSome_of_connected hchecked hconnected, r, hr,
        hother, hsame⟩

theorem oneChatbot_step_iff (store : Store) (event : Event)
    (h : OneChatbot cipher store.telegramIntegrations) :
    OneChatbot cipher (step cipher store event).telegramIntegrations ↔
      LeavesTokens cipher (store, event) := by
  cases event with
  | connect request => exact oneChatbot_connect_iff request h
  | change db sessions =>
      refine iff_of_true ?_ trivial
      intro r hr s hs
      exact h r ((Table.mem_delete _ _ r).mp hr).1 s ((Table.mem_delete _ _ s).mp hs).1

/-- Over every run, no Telegram bot is ever connected to two chatbots exactly
when no request connects a chatbot to a Telegram bot of another one. -/
theorem oneChatbot_run_iff (cipher : Cipher) (events : List Event) {store : Store}
    (h : OneChatbot cipher store.telegramIntegrations) :
    (∀ visit ∈ visits (step cipher) store events,
        OneChatbot cipher (step cipher visit.1 visit.2).telegramIntegrations) ↔
      ∀ visit ∈ visits (step cipher) store events, LeavesTokens cipher visit :=
  invariant_visits_iff (fun s : Store => OneChatbot cipher s.telegramIntegrations)
    oneChatbot_step_iff events h

end Tokens

section SharedToken

/-- A cipher that hides nothing: its random bytes come first. -/
def openCipher : Cipher where
  encrypt := fun nonce token => String.ofList (List.replicate nonce 'i' ++ '.' :: token.toList)
  decrypt := fun encrypted => some (String.ofList ((encrypted.toList.dropWhile (· = 'i')).drop 1))
  encrypt_ne_empty := by
    intro nonce token hempty
    have hlength := congrArg String.length hempty
    simp at hlength
  decrypt_encrypt := by
    intro nonce token
    have hmarks : ∀ c ∈ List.replicate nonce 'i', decide (c = 'i') = true := by
      intro c hc
      rw [List.eq_of_mem_replicate hc]
      decide
    simp [List.dropWhile_append_of_pos hmarks]

/-- Chatbot 1 of account 1 and chatbot 2 of account 2. -/
def twoOwners : Store :=
  { Store.empty with
    toDatabase :=
      { Database.empty with
        chatbots := (Table.empty.create { supportBot with owner := 1 }).create
          { supportBot with owner := 2 } } }

def accountTwo : User where
  id := 2
  isSuperuser := false
  role := .user
  id_pos := Nat.two_pos

def connectBot (user : User) (bot nonce : Nat) : ConnectRequest where
  sessionUser := none
  jwtUser := user
  xBotId := none
  botIdParam := none
  data := .obj [("bot_id", .int bot), ("telegram_bot_token", .str "110201543:AAHdqTcv")]
  botInfo := some (some "support_bot")
  webhookSet := true
  lastError := none
  baseUrl := "https://botman.test"
  secret := "secret"
  nonce := nonce
  fits := fun _ => true

theorem oneChatbot_twoOwners : OneChatbot openCipher twoOwners.telegramIntegrations :=
  fun _ hr => by cases hr

theorem firstConnection_one :
    (∃ url, (connectTelegramBot openCipher twoOwners (connectBot accountOne 1 1)).2 =
        .connected (some "support_bot") url) ∧
      ∀ visit ∈ visits (step openCipher) twoOwners [.connect (connectBot accountOne 1 1)],
        OneChatbot openCipher (step openCipher visit.1 visit.2).telegramIntegrations := by
  refine ⟨⟨_, rfl⟩, (oneChatbot_run_iff openCipher _ oneChatbot_twoOwners).mpr ?_⟩
  intro visit hvisit
  rw [List.mem_singleton.mp hvisit]
  rintro ⟨bot, token, username, -, -, r, hr, -⟩
  cases hr

/-- Two accounts connect their chatbots to the same Telegram bot. -/
theorem secondConnection_shares :
    let first := (connectTelegramBot openCipher twoOwners (connectBot accountOne 1 1)).1
    let second := connectTelegramBot openCipher first (connectBot accountTwo 2 2)
    (∃ url, second.2 = .connected (some "support_bot") url) ∧
      second.1.telegramIntegrations.rows.map
          (fun r => (r.chatbot, telegramBotToken openCipher r)) =
        [(1, "110201543:AAHdqTcv"), (2, "110201543:AAHdqTcv")] ∧
      ¬ OneChatbot openCipher second.1.telegramIntegrations := by
  intro first second
  refine ⟨⟨_, rfl⟩, ?_, ?_⟩
  · decide +kernel
  · decide +kernel

end SharedToken

end Botman.TelegramConnect
