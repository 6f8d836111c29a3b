import Botman.Library.PythonUuid
import Botman.PublicGate

/-!
The identifier of a chatbot in the embedding page: `WidgetConfigView` finds the
chatbot by its token or by its key, `WidgetSessionView` by its token alone.

Both get the same text, the first in its URL and the second in its body.
-/

namespace Botman.BotIdentifier

open Botman.Library.KeyedTable
open Botman.Library.PythonValue
open Botman.Library.PythonUuid
open Botman.DataModel
open Botman.TenantContext
open Botman.ChatbotSettings
open Botman.WidgetApi
open Botman.ChatEffects
open Botman.ChatApi
open Botman.PublicGate

section Views

variable (db : Database) (tenant : Tenant)

/-- The lookup of `WidgetConfigView.get`, absent where it raises.  The query by
token stands in the same `try` as the conversion to a UUID, so a `ValueError`
of either leads to the query by key. -/
def configChatbot (token : String) : Option (Option Chatbot) :=
  let byToken := (uuidOfString token).bind fun value =>
    matchingChatbots db tenant fun bot => bot.widgetToken = value
  match byToken with
  | some found => some found.head?
  | none =>
      if isDigit token then
        (intOfDigits token).bind fun key =>
          (matchingChatbots db tenant fun bot => (bot.id : Int) = key).map List.head?
      else some none

/-- `WidgetConfigView.get`. -/
def widgetConfigView (text : TextServices) (debug : Bool) (headers : OriginHeaders)
    (token : String) : WidgetConfigResponse :=
  match configChatbot db tenant token with
  | none => .raised
  | some none => .error 404 "Bot not found"
  | some (some bot) => widgetConfig text debug headers bot

/-- The server with the UUID field of Django. -/
def withUuid (server : SessionServer) : SessionServer :=
  { server with uuid := uuidLookup }

/-- A request of the widget: it names no chatbot outside its URL and body. -/
def pageRequest (user : Option User) : HttpRequest where
  user := user
  xBotId := none
  botIdParam := none

/-- The widget asks for its configuration, with the identifier in the path. -/
def askConfig (server : SessionServer) (user : Option User) (headers : OriginHeaders)
    (botId : String) : WidgetConfigResponse :=
  widgetConfigView db
    (processView (pageRequest user)
      { viewClass := some "WidgetConfigView", kwargs := [("token", botId)] })
    server.text server.debug headers botId

/-- The widget asks for a session, with the identifier in the body. -/
def askSession (server : SessionServer) (visitorId : String) (user : Option User)
    (headers : OriginHeaders) (botId : String) : SessionResponse :=
  (widgetSessionView (withUuid server) visitorId db
    (processView (pageRequest user) { viewClass := some "WidgetSessionView", kwargs := [] })
    headers (.obj [("bot_token", .str botId)])).2

end Views

section Agreement

/-- Active, published, and open to every origin. -/
def IsOpen (bot : Chatbot) : Prop :=
  bot.isActive = true ∧ bot.isPublished = true ∧
    getD (getRuntimeConfig bot) "allowed_domains" (.str "*") = .str "*"

/-- Both answers are about one chatbot, or say that there is none. -/
def SameBot (server : SessionServer) (visitorId : String) (db : Database)
    (config : WidgetConfigResponse) (session : SessionResponse) : Prop :=
  (∃ bot ∈ db.chatbots.rows, (∃ body, config = .config body ∧ body.id = bot.id) ∧
      session = .session (server.dumps visitorId bot.id) visitorId) ∨
    config = .error 404 "Bot not found" ∧ session = .error 404 "Resource not found."

variable {db : Database} {server : SessionServer} {visitorId : String} {headers : OriginHeaders}

theorem widgetGate_of_isOpen {bot : Chatbot} (h : IsOpen bot) (text : TextServices)
    (debug : Bool) : widgetGate text debug headers bot = .passed := by
  obtain ⟨hactive, hpublished, hdomains⟩ := h
  have hstatus : validateBotStatus bot = none := by
    simp [validateBotStatus, hactive, hpublished]
  have horigin : validateOrigin text debug headers bot = some true := by
    unfold validateOrigin
    rw [hdomains]
    cases debug with
    | true => rfl
    | false =>
        cases firstTruthy headers.origin (firstTruthy headers.referer none) with
        | none => rfl
        | some origin => simp
  rw [widgetGate, hstatus, horigin]

theorem widgetConfig_of_isOpen {bot : Chatbot} (h : IsOpen bot) (text : TextServices)
    (debug : Bool) :
    ∃ body, widgetConfig text debug headers bot = .config body ∧ body.id = bot.id := by
  rw [widgetConfig, widgetGate_of_isOpen h]
  exact ⟨_, rfl, rfl⟩

/-- The context of a request that names no chatbot. -/
def pageTenant (user : Option User) : Tenant :=
  setContext (pageRequest user) none

theorem exists_shown (db : Database) (user : Option User) :
    ∃ shown : List Chatbot, shown.Sublist db.chatbots.rows ∧
      ∀ p, matchingChatbots db (pageTenant user) p = some (shown.filter p) := by
  have hrows : ∃ shown : List Chatbot, shown.Sublist db.chatbots.rows ∧
      getQueryset db chatbotModel (pageTenant user) db.chatbots.rows = some shown := by
    cases user with
    | none =>
        exact ⟨db.chatbots.rows, List.Sublist.refl _, getQueryset_anonymous _ _ _ _ rfl rfl⟩
    | some user =>
        cases hsuper : user.isSuperuser with
        | true =>
            exact ⟨db.chatbots.rows, List.Sublist.refl _, getQueryset_superuser _ _ _ _ hsuper⟩
        | false =>
            exact ⟨_, List.filter_sublist,
              getQueryset_user _ _ _ _ user.id hsuper rfl user.id_pos rfl⟩
  obtain ⟨shown, hsublist, hshown⟩ := hrows
  refine ⟨shown, hsublist, fun p => ?_⟩
  rw [matchingChatbots, hshown, Option.map_some]

theorem askConfig_eq (user : Option User) (botId : String) :
    askConfig db server user headers botId =
      widgetConfigView db (pageTenant user) server.text server.debug headers botId :=
  rfl

theorem withUuid_uuid (server : SessionServer) (text : String) :
    (withUuid server).uuid (.str text) = uuidOfString text := by
  simp only [withUuid, uuidLookup]

theorem askSession_of_not_uuid (user : Option User) {botId : String} (hnonempty : botId ≠ "")
    (h : uuidOfString botId = none) :
    askSession db server visitorId user headers botId = .failed := by
  have htruthy : truthy (.str botId) = true := by simpa [truthy] using hnonempty
  have hget : get [("bot_token", .str botId)] "bot_token" = .str botId := rfl
  simp only [askSession, widgetSessionView, hget, htruthy, withUuid_uuid, h, if_true,
    Option.bind_none]
  rfl

theorem askSession_of_uuid (user : Option User) {botId : String} (hnonempty : botId ≠ "")
    {value : Uuid} (h : uuidOfString botId = some value) :
    askSession db server visitorId user headers botId =
      (issueSession (withUuid server) visitorId db headers
        (matchingChatbots db (pageTenant user) fun bot => bot.widgetToken = value)).2 := by
  have htruthy : truthy (.str botId) = true := by simpa [truthy] using hnonempty
  have hget : get [("bot_token", .str botId)] "bot_token" = .str botId := rfl
  simp only [askSession, widgetSessionView, hget, htruthy, withUuid_uuid, h, if_true,
    Option.bind_some]
  rfl

theorem sameBot_of_uuid (hdistinct : (db.chatbots.rows.map Chatbot.widgetToken).Nodup)
    (hopen : ∀ bot ∈ db.chatbots.rows, IsOpen bot) (user : Option User) {botId : String}
    (hnonempty : botId ≠ "") {value : Uuid} (h : uuidOfString botId = some value) :
    SameBot server visitorId db (askConfig db server user headers botId)
      (askSession db server visitorId user headers botId) := by
  obtain ⟨shown, hsublist, hshown⟩ := exists_shown db user
  have hnodup : (shown.map Chatbot.widgetToken).Nodup := hdistinct.sublist (hsublist.map _)
  have hone : shown.filter (fun bot => bot.widgetToken = value) =
      (shown.find? fun bot => bot.widgetToken = value).toList := by
    refine Table.filter_eq_toList_find?_of_nodup (List.Nodup.of_map _ hnodup) ?_
    intro r hr s hs hpr hps
    exact List.inj_on_of_nodup_map hnodup hr hs
      ((of_decide_eq_true hpr).trans (of_decide_eq_true hps).symm)
  have hfound := hshown fun bot => bot.widgetToken = value
  rw [hone] at hfound
  have hconfig : configChatbot db (pageTenant user) botId =
      some (shown.find? fun bot => bot.widgetToken = value) := by
    rw [configChatbot, h, Option.bind_some, hfound]
    simp only [Option.head?_toList]
  rw [askConfig_eq, askSession_of_uuid user hnonempty h, widgetConfigView, hconfig, hfound]
  cases hfind : shown.find? fun bot => bot.widgetToken = value with
  | none => exact Or.inr ⟨rfl, rfl⟩
  | some bot =>
      have hbot : bot ∈ db.chatbots.rows := hsublist.subset (List.mem_of_find?_eq_some hfind)
      have hbody : ∃ body, widgetConfig server.text server.debug headers bot = .config body ∧
          body.id = bot.id := widgetConfig_of_isOpen (hopen bot hbot) server.text server.debug
      have hsession : (issueSession (withUuid server) visitorId db headers (some [bot])).2 =
          .session (server.dumps visitorId bot.id) visitorId := by
        rw [issueSession, widgetGate_of_isOpen (hopen bot hbot)]
        rfl
      exact Or.inl ⟨bot, hbot, hbody, hsession⟩

/-- The two views agree on an identifier exactly when it is a UUID in one of
the spellings of Python. -/
theorem sameBot_iff (server : SessionServer) (visitorId : String) (headers : OriginHeaders)
    (hdistinct : (db.chatbots.rows.map Chatbot.widgetToken).Nodup)
    (hopen : ∀ bot ∈ db.chatbots.rows, IsOpen bot) (user : Option User) {botId : String}
    (hnonempty : botId ≠ "") :
    SameBot server visitorId db (askConfig db server user headers botId)
        (askSession db server visitorId user headers botId) ↔
      (uuidOfString botId).isSome = true := by
  cases huuid : uuidOfString botId with
  | none =>
      refine iff_of_false ?_ (by simp)
      rw [askSession_of_not_uuid user hnonempty huuid]
      rintro (⟨bot, -, -, hsession⟩ | ⟨-, hsession⟩)
      · cases hsession
      · cases hsession
  | some value => exact iff_of_true (sameBot_of_uuid hdistinct hopen user hnonempty huuid) rfl

end Agreement

section OwnToken

theorem hexValue_hexDigit : ∀ d < 16, hexValue (hexDigit d) = some d := by
  decide

/-- No character that the reading of a UUID or of an integer drops or gives a meaning
to. -/
def IsPlain (c : Char) : Prop :=
  c ≠ ':' ∧ c ≠ '-' ∧ isBrace c = false ∧ isNumeralSpace c = false ∧
    c ≠ '+' ∧ c ≠ 'x' ∧ c ≠ 'X'

instance (c : Char) : Decidable (IsPlain c) :=
  inferInstanceAs (Decidable (_ ∧ _))

theorem isPlain_hexDigit : ∀ d < 16, IsPlain (hexDigit d) := by
  decide

theorem exists_digit_of_mem_hexText {count n : Nat} {c : Char} (h : c ∈ hexText count n) :
    ∃ d < 16, c = hexDigit d := by
  induction count generalizing n with
  | zero => cases h
  | succ count ih =>
      rcases List.mem_append.mp h with hinit | hlast
      · exact ih hinit
      · exact ⟨n % 16, Nat.mod_lt _ (by decide), List.mem_singleton.mp hlast⟩

theorem length_hexText (count n : Nat) : (hexText count n).length = count := by
  induction count generalizing n with
  | zero => rfl
  | succ count ih => rw [hexText, List.length_append, ih, List.length_singleton]

theorem hexDigits_cons {c : Char} {d : Nat} (h : hexValue c = some d) (acc : Nat)
    (rest : List Char) : hexDigits acc (c :: rest) = hexDigits (acc * 16 + d) rest := by
  rw [hexDigits.eq_def]
  simp only [h]

/-- The number of texts of so many hexadecimal digits. -/
def hexCount : Nat → Nat
  | 0 => 1
  | count + 1 => 16 * hexCount count

theorem hexDigits_hexText (count n acc : Nat) (rest : List Char) :
    hexDigits acc (hexText count n ++ rest) =
      hexDigits (acc * hexCount count + n % hexCount count) rest := by
  induction count generalizing n rest with
  | zero => simp [hexText, hexCount, Nat.mod_one]
  | succ count ih =>
      have hlast := hexValue_hexDigit (n % 16) (Nat.mod_lt _ (by decide))
      rw [hexText, List.append_assoc, ih, List.singleton_append, hexDigits_cons hlast]
      congr 1
      have hscale : acc * hexCount count * 16 = acc * hexCount (count + 1) := by
        rw [Nat.mul_assoc, hexCount, Nat.mul_comm 16]
      rw [Nat.add_mul, hscale, hexCount, Nat.mod_mul]
      omega

theorem intOfHex_hexText {n : Nat} (h : n < hexCount 32) :
    intOfHex (hexText 32 n) = some (n : Int) := by
  have hplain : ∀ c ∈ hexText 32 n, IsPlain c ∧ ∃ d, hexValue c = some d := by
    intro c hc
    obtain ⟨d, hd, rfl⟩ := exists_digit_of_mem_hexText hc
    exact ⟨isPlain_hexDigit d hd, d, hexValue_hexDigit d hd⟩
  have htrim : trimNumeral (hexText 32 n) = hexText 32 n :=
    trimNumeral_eq_self fun c hc => (hplain c hc).1.2.2.2.1
  have hvalue : hexDigits 0 (hexText 32 n) = some n := by
    have hdigits := hexDigits_hexText 32 n 0 []
    rwa [List.append_nil, Nat.zero_mul, Nat.zero_add, Nat.mod_eq_of_lt h] at hdigits
  have hlength := length_hexText 32 n
  rw [intOfHex, htrim]
  -- Two digits are looked at, for a sign and for `0x`.
  rcases hchars : hexText 32 n with _ | ⟨first, _ | ⟨second, rest⟩⟩
  · simp [hchars] at hlength
  · simp [hchars] at hlength
  · rw [hchars] at hplain hvalue
    obtain ⟨⟨-, hminus, -, -, hplus, -⟩, d, hfirst⟩ := hplain first (by simp)
    obtain ⟨⟨-, -, -, -, -, hx, hX⟩, -⟩ := hplain second (by simp)
    have hmagnitude : hexMagnitude (first :: second :: rest) = some n := by
      have hprefix : ¬ (decimal first = some 0 ∧ (second = 'x' ∨ second = 'X')) := by
        simp [hx, hX]
      unfold hexMagnitude
      dsimp only
      rw [if_neg hprefix, hexNumeral, hfirst, Option.bind_some]
      rwa [hexDigits_cons hfirst, Nat.zero_mul, Nat.zero_add] at hvalue
    split
    · rename_i heq
      exact absurd (List.cons.inj heq).1 hplus
    · rename_i heq
      exact absurd (List.cons.inj heq).1 hminus
    · rw [hmagnitude]
      rfl

theorem removeAll_eq_self {pattern : List Char} (hcolon : ':' ∈ pattern) {chars : List Char}
    (h : ∀ c ∈ chars, c ≠ ':') : removeAll pattern 0 chars = chars := by
  induction chars with
  | nil => rfl
  | cons c rest ih =>
      have hnot : pattern.isPrefixOf (c :: rest) = false := by
        rw [Bool.eq_false_iff]
        intro hsome
        exact h ':' ((List.isPrefixOf_iff_prefix.mp hsome).subset hcolon) rfl
      rw [removeAll, hnot, ih fun d hd => h d (List.mem_cons_of_mem _ hd)]
      rfl

theorem dropWhile_eq_self {chars : List Char} {p : Char → Bool} (h : ∀ c ∈ chars, p c = false) :
    chars.dropWhile p = chars := by
  cases chars with
  | nil => rfl
  | cons c rest => simp [h c (by simp)]

theorem uuidDigits_eq_filter {text : String} (h : ∀ c ∈ text.toList, c = '-' ∨ IsPlain c) :
    uuidDigits text = text.toList.filter fun c => c ≠ '-' := by
  have hcolon : ∀ c ∈ text.toList, c ≠ ':' := by
    intro c hc
    rcases h c hc with rfl | hplain
    · decide
    · exact hplain.1
  have hbrace : ∀ c ∈ text.toList, isBrace c = false := by
    intro c hc
    rcases h c hc with rfl | hplain
    · decide
    · exact hplain.2.2.1
  have hreverse : ∀ c ∈ text.toList.reverse, isBrace c = false := fun c hc =>
    hbrace c (List.mem_reverse.mp hc)
  have hurn : removeAll "urn:".toList 0 text.toList = text.toList :=
    removeAll_eq_self (by decide) hcolon
  have huuid : removeAll "uuid:".toList 0 text.toList = text.toList :=
    removeAll_eq_self (by decide) hcolon
  simp only [uuidDigits, hurn, huuid, dropWhile_eq_self hbrace, dropWhile_eq_self hreverse,
    List.reverse_reverse]

/-- The groups that `str(uuid)` separates. -/
def grouped (digits : List Char) : List Char :=
  digits.take 8 ++ ['-'] ++ (digits.drop 8).take 4 ++ ['-'] ++ (digits.drop 12).take 4 ++ ['-'] ++
    (digits.drop 16).take 4 ++ ['-'] ++ (digits.drop 20).take 12

theorem toList_uuidText (u : Uuid) : (uuidText u).toList = grouped (hexText 32 u.toNat) := by
  generalize hdigits : hexText 32 u.toNat = digits
  simp [uuidText, hdigits, join, grouped]

theorem mem_of_mem_grouped {digits : List Char} {c : Char} (h : c ∈ grouped digits) :
    c = '-' ∨ c ∈ digits := by
  have hgroup : ∀ start count, c ∈ (digits.drop start).take count → c ∈ digits :=
    fun start count hc => List.mem_of_mem_drop (List.mem_of_mem_take hc)
  simp only [grouped, List.mem_append, List.mem_singleton] at h
  rcases h with (((((((h | h) | h) | h) | h) | h) | h) | h) | h
  · exact Or.inr (List.mem_of_mem_take h)
  · exact Or.inl h
  · exact Or.inr (hgroup 8 4 h)
  · exact Or.inl h
  · exact Or.inr (hgroup 12 4 h)
  · exact Or.inl h
  · exact Or.inr (hgroup 16 4 h)
  · exact Or.inl h
  · exact Or.inr (hgroup 20 12 h)

theorem filter_grouped {digits : List Char} (hlength : digits.length = 32)
    (h : ∀ c ∈ digits, c ≠ '-') : (grouped digits).filter (fun c => c ≠ '-') = digits := by
  have hkeep : ∀ group : List Char, (∀ c ∈ group, c ∈ digits) →
      group.filter (fun c => c ≠ '-') = group := fun group hgroup =>
    List.filter_eq_self.mpr fun c hc => decide_eq_true (h c (hgroup c hc))
  have hgroup : ∀ start count, ∀ c ∈ (digits.drop start).take count, c ∈ digits :=
    fun start count c hc => List.mem_of_mem_drop (List.mem_of_mem_take hc)
  have hhyphen : ['-'].filter (fun c => c ≠ '-') = [] := rfl
  have hcut : ∀ start count, (digits.drop start).take count ++ digits.drop (start + count) =
      digits.drop start := by
    intro start count
    rw [← List.drop_drop]
    exact List.take_append_drop count _
  have hlast : (digits.drop 20).take 12 = digits.drop 20 := by
    apply List.take_of_length_le
    rw [List.length_drop, hlength]
  simp only [grouped, List.filter_append, hhyphen,
    hkeep _ fun c hc => List.mem_of_mem_take hc, hkeep _ (hgroup _ _), List.append_assoc,
    List.nil_append]
  rw [hlast, hcut 16 4, hcut 12 4, hcut 8 4, List.take_append_drop]

theorem uuidOfInt_toNat (u : Uuid) : uuidOfInt (u.toNat : Int) = some u := by
  have hbound : (u.toNat : Int) < 340282366920938463463374607431768211456 := by
    have hpow : (2 : Nat) ^ 128 = 340282366920938463463374607431768211456 := by decide
    exact Int.ofNat_lt.mpr (Nat.lt_of_lt_of_eq u.isLt hpow)
  rw [uuidOfInt, if_pos ⟨Int.natCast_nonneg _, hbound⟩, BitVec.ofInt_natCast, BitVec.ofNat_toNat,
    BitVec.setWidth_eq]

theorem isPlain_of_mem_hexText {count n : Nat} {c : Char} (h : c ∈ hexText count n) :
    IsPlain c := by
  obtain ⟨d, hd, rfl⟩ := exists_digit_of_mem_hexText h
  exact isPlain_hexDigit d hd

theorem uuidDigits_uuidText (u : Uuid) : uuidDigits (uuidText u) = hexText 32 u.toNat := by
  rw [uuidDigits_eq_filter, toList_uuidText]
  · exact filter_grouped (length_hexText 32 u.toNat) fun c hc => (isPlain_of_mem_hexText hc).2.1
  · intro c hc
    rw [toList_uuidText] at hc
    exact (mem_of_mem_grouped hc).imp_right isPlain_of_mem_hexText

theorem uuidOfString_of_digits {text : String} {digits : List Char} {n : Int}
    (hdigits : uuidDigits text = digits) (hlength : digits.length = 32)
    (hvalue : intOfHex digits = some n) : uuidOfString text = uuidOfInt n := by
  have hnot : ¬ (uuidDigits text).length ≠ 32 := by
    rw [hdigits]
    exact not_not.mpr hlength
  rw [uuidOfString, if_neg hnot, hdigits, hvalue, Option.bind_some]

theorem uuidOfString_uuidText (u : Uuid) : uuidOfString (uuidText u) = some u := by
  have hcount : 2 ^ 128 = hexCount 32 := by decide
  have hbound : u.toNat < hexCount 32 := Nat.lt_of_lt_of_eq u.isLt hcount
  rw [uuidOfString_of_digits (uuidDigits_uuidText u) (length_hexText 32 u.toNat)
    (intOfHex_hexText hbound), uuidOfInt_toNat]

theorem sameBot_own_token {db : Database} (server : SessionServer) (visitorId : String)
    (headers : OriginHeaders) (hdistinct : (db.chatbots.rows.map Chatbot.widgetToken).Nodup)
    (hopen : ∀ bot ∈ db.chatbots.rows, IsOpen bot) (user : Option User) (bot : Chatbot) :
    SameBot server visitorId db (askConfig db server user headers (uuidText bot.widgetToken))
      (askSession db server visitorId user headers (uuidText bot.widgetToken)) := by
  have hvalue := uuidOfString_uuidText bot.widgetToken
  refine sameBot_of_uuid hdistinct hopen user ?_ hvalue
  intro hempty
  rw [hempty] at hvalue
  cases hvalue

end OwnToken

section Keys

def openServer : SessionServer :=
  { plainServer with
    uuid := uuidLookup
    dumps := fun visitorId _ => visitorId }

theorem isOpen_supportDb : ∀ bot ∈ supportDb.chatbots.rows, IsOpen bot := by
  intro bot hbot
  rw [List.mem_singleton.mp hbot]
  exact ⟨rfl, rfl, rfl⟩

theorem distinct_supportDb : (supportDb.chatbots.rows.map Chatbot.widgetToken).Nodup :=
  List.nodup_singleton _

theorem supportBot_same :
    uuidText supportBot.widgetToken = "00000000-0000-0000-0000-000000000001" ∧
      SameBot openServer "visitor" supportDb
        (askConfig supportDb openServer none foreignVisit.headers (uuidText supportBot.widgetToken))
        (askSession supportDb openServer "visitor" none foreignVisit.headers
          (uuidText supportBot.widgetToken)) := by
  refine ⟨by decide, (sameBot_iff openServer "visitor" foreignVisit.headers distinct_supportDb
    isOpen_supportDb none (by decide)).mpr ?_⟩
  rw [uuidOfString_uuidText]
  rfl

/-- Its key leads to the configuration and to no session; a digit that is not
decimal raises in both views. -/
theorem key_opens_no_session :
    (∃ body, askConfig supportDb openServer none foreignVisit.headers "1" = .config body ∧
        body.id = 1) ∧
      askSession supportDb openServer "visitor" none foreignVisit.headers "1" = .failed ∧
      askConfig supportDb openServer none foreignVisit.headers "²" = .raised ∧
      askSession supportDb openServer "visitor" none foreignVisit.headers "²" = .failed :=
  ⟨⟨_, rfl, rfl⟩, rfl, rfl, rfl⟩

end Keys

end Botman.BotIdentifier
