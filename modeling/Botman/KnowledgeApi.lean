import Botman.KnowledgeDeletion
import Botman.TenantPrograms

/-!
The requests that write knowledge files: `KnowledgeViewSet` with its own
`upload` and the inherited `create`, `update`, `partial_update` and `destroy`,
and `ChatbotViewSet.knowledge`.

A route decides on one write to the table of files, or on an error.  Of the
routes that take the chatbot from the body only `upload` asks who owns it.
-/

namespace Botman.KnowledgeApi

open Botman.Library.KeyedTable
open Botman.Library.Transition
open Botman.Library.PythonValue
open Botman.DataModel
open Botman.TenantContext
open Botman.TenantPrograms
open Botman.KnowledgeTask
open Botman.ChatEffects

universe u

variable {E : Type u}

/-- The tables of the chats and those of the knowledge base, with the same
chatbots. -/
structure KnowledgeStore (E : Type u) where
  database : Database
  knowledge : KnowledgeDb E
  sameChatbots : knowledge.chatbots = database.chatbots.rows.map Chatbot.id

/-- The value of the field `file` in a body; in a JSON body it is no file. -/
inductive FileData where
  | upload (name : String) (size : Nat)
  | other

/-- The fields of a form. -/
structure KnowledgeBody where
  chatbot : Option Json
  file : Option FileData

/-- The routes that write a knowledge file. -/
inductive Route where
  | upload
  | create
  | update (pk : String)
  | partialUpdate (pk : String)
  | destroy (pk : String)
  | knowledge (pk : String)

/-- A request that passed `JWTAuthentication` as `jwtUser`.  The body is absent
where it is no dictionary; `storedName` is the name that the storage gives to
the uploaded file. -/
structure KnowledgeRequest where
  sessionUser : Option User
  jwtUser : User
  xBotId : Option String
  botIdParam : Option String
  route : Route
  body : Option KnowledgeBody
  storedName : String

def Route.viewMatch : Route → ViewMatch
  | .upload => { viewClass := some "KnowledgeViewSet", kwargs := [] }
  | .create => { viewClass := some "KnowledgeViewSet", kwargs := [] }
  | .update pk => { viewClass := some "KnowledgeViewSet", kwargs := [("pk", pk)] }
  | .partialUpdate pk => { viewClass := some "KnowledgeViewSet", kwargs := [("pk", pk)] }
  | .destroy pk => { viewClass := some "KnowledgeViewSet", kwargs := [("pk", pk)] }
  | .knowledge pk => { viewClass := some "ChatbotViewSet", kwargs := [("pk", pk)] }

/-- The context of a request. -/
def KnowledgeRequest.tenant (request : KnowledgeRequest) : Tenant :=
  processView
    { user := request.sessionUser, xBotId := request.xBotId, botIdParam := request.botIdParam }
    request.route.viewMatch

/-- An error response; the texts of the framework's own errors are left out. -/
structure ApiError where
  status : Nat
  detail : String
  deriving DecidableEq

/-- The key that `queryset.get(pk=value)` looks for; a truth value is refused. -/
def pkOf : Json → Option Int
  | .bool _ => none
  | value => intOf value

/-- The field `chatbot`: a `PrimaryKeyRelatedField` over the tenant-aware
manager.  The queryset is made outside the `try`, so a malformed context
raises. -/
def chatbotField (db : Database) (tenant : Tenant) (isPartial : Bool) :
    Option Json → Except ApiError (Option Chatbot)
  | none => if isPartial then .ok none else .error ⟨400, ""⟩
  | some .null => .error ⟨400, ""⟩
  | some (.str "") => .error ⟨400, ""⟩
  | some value =>
      match getQueryset db chatbotModel tenant db.chatbots.rows with
      | none => .error ⟨500, ""⟩
      | some rows =>
          match pkOf value with
          | none => .error ⟨400, ""⟩
          | some key =>
              match rows.find? fun bot => Int.ofNat bot.id = key with
              | none => .error ⟨400, ""⟩
              | some bot => .ok (some bot)

def limitBytes : Nat := 10485760

def validExtensions : List String := [".pdf", ".txt", ".docx"]

/-- The field `file` with `validate_file`: whether one was submitted. -/
def fileField (isPartial : Bool) : Option FileData → Except ApiError Bool
  | none => if isPartial then .ok false else .error ⟨400, ""⟩
  | some .other => .error ⟨400, ""⟩
  | some (.upload name size) =>
      if name = "" then .error ⟨400, ""⟩
      else if size = 0 then .error ⟨400, ""⟩
      else if 100 < name.length then .error ⟨400, ""⟩
      else if limitBytes < size then
        .error ⟨400, "File size too large. Size should not exceed 10 MB."⟩
      else if extension name ∉ validExtensions then
        .error ⟨400, "Unsupported file extension. Allowed extensions are: .pdf, .txt, .docx"⟩
      else .ok true

/-- `KnowledgeFileSerializer.validated_data`. -/
structure Validated where
  chatbot : Option Chatbot
  file : Bool

/-- `KnowledgeFileSerializer`: the chatbot is checked before the file. -/
def serializer (db : Database) (tenant : Tenant) (isPartial : Bool) :
    Option KnowledgeBody → Except ApiError Validated
  | none => .error ⟨400, ""⟩
  | some body =>
      match chatbotField db tenant isPartial body.chatbot with
      | .error e => .error e
      | .ok chatbot =>
          match fileField isPartial body.file with
          | .error e => .error e
          | .ok file => .ok { chatbot := chatbot, file := file }

/-- What a route does to the table of files.  `queued` says whether the
background task is started on the new file. -/
inductive FileWrite where
  | create (row : KnowledgeFile) (queued : Bool)
  | change (row : KnowledgeFile) (stored : Bool)
  | delete (row : KnowledgeFile)

/-- The row of a new file. -/
def newFile (chatbot : Nat) (name : String) : KnowledgeFile where
  id := 0
  chatbot := chatbot
  file := name
  status := .pending
  chunkCount := 0
  processingError := none

/-- `KnowledgeFile.objects.filter(chatbot__owner=user)`, then the lookup of the
key; a key that is no number is not found. -/
def getObject (store : KnowledgeStore E) (user : Nat) (pk : String) : Option KnowledgeFile :=
  (intOfString pk).bind fun key =>
    store.knowledge.files.rows.find? fun f =>
      decide (ownerOfChatbot store.database f.chatbot = some user) &&
        decide (Int.ofNat f.id = key)

/-- `serializer.save()` without an instance. -/
def saveNew (data : Validated) (storedName : String) (queued : Bool) :
    Except ApiError FileWrite :=
  match data.chatbot with
  | none => .error ⟨500, ""⟩
  | some bot => .ok (.create (newFile bot.id storedName) queued)

/-- `upload`, the one route that asks for the owner of the chatbot in the body. -/
def upload (store : KnowledgeStore E) (request : KnowledgeRequest) :
    Except ApiError FileWrite :=
  match serializer store.database request.tenant false request.body with
  | .error e => .error e
  | .ok data =>
      if data.chatbot.all fun bot => bot.owner ≠ request.jwtUser.id then
        .error ⟨403, "You do not own this chatbot."⟩
      else saveNew data request.storedName true

/-- `create`, which takes any chatbot that the context shows. -/
def create (store : KnowledgeStore E) (request : KnowledgeRequest) :
    Except ApiError FileWrite :=
  match serializer store.database request.tenant false request.body with
  | .error e => .error e
  | .ok data => saveNew data request.storedName false

/-- `serializer.save()` on an instance. -/
def changedFile (file : KnowledgeFile) (data : Validated) (storedName : String) :
    KnowledgeFile :=
  { file with
    chatbot := (data.chatbot.map Chatbot.id).getD file.chatbot
    file := if data.file then storedName else file.file }

/-- `update` and `partial_update`: the file has to be the user's, the chatbot in the
body has not. -/
def update (store : KnowledgeStore E) (request : KnowledgeRequest) (isPartial : Bool)
    (pk : String) : Except ApiError FileWrite :=
  match getObject store request.jwtUser.id pk with
  | none => .error ⟨404, ""⟩
  | some file =>
      match serializer store.database request.tenant isPartial request.body with
      | .error e => .error e
      | .ok data => .ok (.change (changedFile file data request.storedName) data.file)

def destroy (store : KnowledgeStore E) (request : KnowledgeRequest) (pk : String) :
    Except ApiError FileWrite :=
  match getObject store request.jwtUser.id pk with
  | none => .error ⟨404, ""⟩
  | some file => .ok (.delete file)

/-- `ChatbotViewSet.get_object` over the chatbots of the user. -/
def getChatbot (db : Database) (tenant : Tenant) (user : Nat) (pk : String) :
    Except ApiError Chatbot :=
  match getQueryset db chatbotModel tenant db.chatbots.rows with
  | none => .error ⟨500, ""⟩
  | some rows =>
      match (intOfString pk).bind fun key =>
        rows.find? fun bot => decide (bot.owner = user) && decide (Int.ofNat bot.id = key) with
      | none => .error ⟨404, ""⟩
      | some bot => .ok bot

/-- `ChatbotViewSet.knowledge`: the key in the URL replaces the one in the body,
which fails where the body is no dictionary. -/
def knowledge (store : KnowledgeStore E) (request : KnowledgeRequest) (pk : String) :
    Except ApiError FileWrite :=
  match getChatbot store.database request.tenant request.jwtUser.id pk with
  | .error e => .error e
  | .ok bot =>
      match request.body with
      | none => .error ⟨500, ""⟩
      | some body =>
          let data := { body with chatbot := some (.int (Int.ofNat bot.id)) }
          match serializer store.database request.tenant false (some data) with
          | .error e => .error e
          | .ok data => saveNew data request.storedName true

/-- What a request decides to write. -/
def view (store : KnowledgeStore E) (request : KnowledgeRequest) : Except ApiError FileWrite :=
  match request.route with
  | .upload => upload store request
  | .create => create store request
  | .update pk => update store request false pk
  | .partialUpdate pk => update store request true pk
  | .destroy pk => destroy store request pk
  | .knowledge pk => knowledge store request pk

def addToDisk (db : KnowledgeDb E) (name : String) : KnowledgeDb E :=
  { db with disk := db.disk ++ [name] }

/-- INSERT of a file, absent where the foreign key fails. -/
def createFile (db : KnowledgeDb E) (row : KnowledgeFile) : Option (KnowledgeDb E) :=
  if h : row.chatbot ∈ db.chatbots then
    some
      { db with
        files := db.files.create row
        fileOwner := by
          intro f hf
          rcases (db.files.mem_create row f).mp hf with hf | rfl
          · exact db.fileOwner f hf
          · exact h
        chunkFile := by
          intro c hc
          obtain ⟨f, hf, hid⟩ := db.chunkFile c hc
          exact ⟨f, (db.files.mem_create row f).mpr (Or.inl hf), hid⟩ }
  else none

theorem createFile_eq_some {db after : KnowledgeDb E} {row : KnowledgeFile}
    (h : createFile db row = some after) :
    after.files = db.files.create row ∧ after.chunks = db.chunks ∧
      after.chatbots = db.chatbots := by
  unfold createFile at h
  split at h
  · cases h
    exact ⟨rfl, rfl, rfl⟩
  · cases h

/-- The statements of a write; the last one removes the uploaded file with its
row (`auto_delete_file_on_delete`). -/
def writeKnowledge (db : KnowledgeDb E) : FileWrite → Option (KnowledgeDb E)
  | .create row _ => createFile (addToDisk db row.file) row
  | .change row stored => saveFile (if stored then addToDisk db row.file else db) row
  | .delete row =>
      some (deleteFile (if row.file = "" then db else removeFromDisk db row.file) row.id)

theorem writeKnowledge_eq_some {db after : KnowledgeDb E} {write : FileWrite}
    (h : writeKnowledge db write = some after) :
    after.chatbots = db.chatbots ∧
      match write with
      | .create row _ => after.files = db.files.create row ∧ after.chunks = db.chunks
      | .change row _ => after.files = db.files.save row ∧ after.chunks = db.chunks
      | .delete row =>
          after.files = db.files.delete (fun f => f.id = row.id) ∧
            after.chunks = db.chunks.delete fun c => c.knowledgeFile = row.id := by
  cases write with
  | create row queued =>
      obtain ⟨hfiles, hchunks, hbots⟩ := createFile_eq_some h
      exact ⟨hbots, hfiles, hchunks⟩
  | change row stored =>
      cases stored with
      | true =>
          obtain ⟨hfiles, hchunks, hbots, -⟩ := saveFile_eq_some h
          exact ⟨hbots, hfiles, hchunks⟩
      | false =>
          obtain ⟨hfiles, hchunks, hbots, -⟩ := saveFile_eq_some h
          exact ⟨hbots, hfiles, hchunks⟩
  | delete row =>
      cases h
      split <;> exact ⟨rfl, rfl, rfl⟩

/-- A write to the store, which keeps both halves of it in step. -/
def commit (store : KnowledgeStore E) (write : FileWrite) : Option (KnowledgeStore E) :=
  match h : writeKnowledge store.knowledge write with
  | some after =>
      some
        { store with
          knowledge := after
          sameChatbots := (writeKnowledge_eq_some h).1.trans store.sameChatbots }
  | none => none

inductive KnowledgeResponse where
  | done (write : FileWrite)
  | error (e : ApiError)

/-- One request.  A write that the database refuses is answered 500. -/
def handle (store : KnowledgeStore E) (request : KnowledgeRequest) :
    KnowledgeStore E × KnowledgeResponse :=
  match view store request with
  | .error e => (store, .error e)
  | .ok write =>
      match commit store write with
      | some after => (after, .done write)
      | none => (store, .error ⟨500, ""⟩)

section Decisions

variable {db : Database} {tenant : Tenant} {isPartial : Bool}

theorem find?_shown_eq_some_iff (db : Database) (tenant : Tenant) (key : Int) (bot : Chatbot) :
    ((db.chatbots.rows.filter fun b => decide (Shows db tenant (some b.id))).find? fun b =>
        Int.ofNat b.id = key) = some bot ↔
      bot ∈ db.chatbots.rows ∧ Shows db tenant (some bot.id) ∧ key = Int.ofNat bot.id := by
  rw [Table.find?_eq_some_iff_of_unique, List.mem_filter, decide_eq_true_iff,
    decide_eq_true_iff, and_assoc, eq_comm (a := key)]
  intro b hb c hc hbkey hckey
  have hid : b.id = c.id :=
    Int.ofNat.inj ((of_decide_eq_true hbkey).trans (of_decide_eq_true hckey).symm)
  exact db.chatbots.eq_of_key_eq (List.mem_filter.mp hb).1 (List.mem_filter.mp hc).1 hid

theorem chatbotField_eq_ok_some_iff {value : Option Json} {bot : Chatbot} :
    chatbotField db tenant isPartial value = .ok (some bot) ↔
      isMalformed tenant = false ∧ bot ∈ db.chatbots.rows ∧ Shows db tenant (some bot.id) ∧
        ∃ v, value = some v ∧ pkOf v = some (Int.ofNat bot.id) := by
  unfold chatbotField
  split
  · cases isPartial <;> simp
  · simp [pkOf, intOf]
  · simp [pkOf, intOf, show intOfString "" = none from by decide]
  · rename_i v _ _
    rw [getQueryset_eq (followsChatbot_chatbot db) tenant]
    cases isMalformed tenant with
    | true => simp
    | false =>
        simp only [Bool.false_eq_true, if_false, true_and, Option.some.injEq, exists_eq_left']
        cases hkey : pkOf v with
        | none => simp
        | some key =>
            rw [Option.some.injEq, ← find?_shown_eq_some_iff db tenant key bot]
            dsimp only
            cases (db.chatbots.rows.filter fun b => decide (Shows db tenant (some b.id))).find?
                fun b => Int.ofNat b.id = key with
            | none => simp
            | some found => simp

theorem serializer_eq_ok_iff {body : Option KnowledgeBody} {data : Validated} :
    serializer db tenant isPartial body = .ok data ↔
      ∃ b, body = some b ∧ chatbotField db tenant isPartial b.chatbot = .ok data.chatbot ∧
        fileField isPartial b.file = .ok data.file := by
  cases body with
  | none => simp [serializer]
  | some b =>
      simp only [serializer, Option.some.injEq, exists_eq_left']
      cases chatbotField db tenant isPartial b.chatbot with
      | error e => simp
      | ok chatbot =>
          cases fileField isPartial b.file with
          | error e => simp
          | ok file =>
              cases data
              simp

theorem serializer_chatbot {body : Option KnowledgeBody} {data : Validated}
    (h : serializer db tenant false body = .ok data) : ∃ bot, data.chatbot = some bot := by
  obtain ⟨b, -, hbot, -⟩ := serializer_eq_ok_iff.mp h
  unfold chatbotField at hbot
  split at hbot
  · simp at hbot
  · simp at hbot
  · simp at hbot
  · split at hbot
    · simp at hbot
    · split at hbot
      · simp at hbot
      · split at hbot
        · simp at hbot
        · rename_i bot _
          exact ⟨bot, (Except.ok.inj hbot).symm⟩

end Decisions

theorem getObject_eq_some {store : KnowledgeStore E} {user : Nat} {pk : String}
    {file : KnowledgeFile} (h : getObject store user pk = some file) :
    file ∈ store.knowledge.files.rows ∧
      ownerOfChatbot store.database file.chatbot = some user := by
  obtain ⟨key, -, hfind⟩ := Option.bind_eq_some_iff.mp h
  have htest := List.find?_some hfind
  simp only [Bool.and_eq_true, decide_eq_true_eq] at htest
  exact ⟨List.mem_of_find?_eq_some hfind, htest.1⟩

theorem getChatbot_eq_ok {db : Database} {tenant : Tenant} {user : Nat} {pk : String}
    {bot : Chatbot} (h : getChatbot db tenant user pk = .ok bot) :
    bot ∈ db.chatbots.rows ∧ bot.owner = user := by
  unfold getChatbot at h
  split at h
  · cases h
  · rename_i rows hrows
    split at h
    · cases h
    · rename_i found hfound
      cases h
      obtain ⟨key, -, hfind⟩ := Option.bind_eq_some_iff.mp hfound
      have htest := List.find?_some hfind
      simp only [Bool.and_eq_true, decide_eq_true_eq] at htest
      exact ⟨mem_of_mem_getQueryset hrows _ (List.mem_of_find?_eq_some hfind), htest.1⟩

/-- The routes that change a file, and whether they take a part of the
fields. -/
def Route.changes : Route → Option (Bool × String)
  | .update pk => some (false, pk)
  | .partialUpdate pk => some (true, pk)
  | _ => none

/-- What a route can decide on: `upload` and `knowledge` create for a chatbot
of the user, `create` and the updates for whatever chatbot the serializer
accepts. -/
inductive Decides (store : KnowledgeStore E) (request : KnowledgeRequest) : FileWrite → Prop where
  | own {bot : Chatbot} (queued : Bool) (hbot : bot ∈ store.database.chatbots.rows)
      (howner : bot.owner = request.jwtUser.id) :
      Decides store request (.create (newFile bot.id request.storedName) queued)
  | create {data : Validated} {bot : Chatbot} (hroute : request.route = .create)
      (hdata : serializer store.database request.tenant false request.body = .ok data)
      (hbot : data.chatbot = some bot) :
      Decides store request (.create (newFile bot.id request.storedName) false)
  | change {isPartial : Bool} {pk : String} {file : KnowledgeFile} {data : Validated}
      (hroute : request.route.changes = some (isPartial, pk))
      (hfile : getObject store request.jwtUser.id pk = some file)
      (hdata : serializer store.database request.tenant isPartial request.body = .ok data) :
      Decides store request (.change (changedFile file data request.storedName) data.file)
  | delete {pk : String} {file : KnowledgeFile}
      (hfile : getObject store request.jwtUser.id pk = some file) :
      Decides store request (.delete file)

section Views

variable {store : KnowledgeStore E} {request : KnowledgeRequest} {write : FileWrite}

theorem mem_of_serializer {tenant : Tenant} {isPartial : Bool} {body : Option KnowledgeBody}
    {data : Validated} {bot : Chatbot}
    (h : serializer store.database tenant isPartial body = .ok data)
    (hbot : data.chatbot = some bot) : bot ∈ store.database.chatbots.rows := by
  obtain ⟨b, -, hfield, -⟩ := serializer_eq_ok_iff.mp h
  rw [hbot] at hfield
  exact (chatbotField_eq_ok_some_iff.mp hfield).2.1

theorem decides_upload (h : upload store request = .ok write) : Decides store request write := by
  unfold upload at h
  split at h
  · cases h
  · rename_i data hdata
    obtain ⟨bot, hbot⟩ := serializer_chatbot hdata
    split at h
    · cases h
    · rename_i howner
      simp only [hbot, Option.all_some, ne_eq, decide_not, Bool.not_eq_true',
        decide_eq_false_iff_not, not_not] at howner
      simp only [saveNew, hbot] at h
      cases h
      exact .own true (mem_of_serializer hdata hbot) howner

theorem decides_create (hroute : request.route = .create)
    (h : create store request = .ok write) : Decides store request write := by
  unfold create at h
  split at h
  · cases h
  · rename_i data hdata
    obtain ⟨bot, hbot⟩ := serializer_chatbot hdata
    simp only [saveNew, hbot] at h
    cases h
    exact .create hroute hdata hbot

theorem decides_update {isPartial : Bool} {pk : String}
    (hroute : request.route.changes = some (isPartial, pk))
    (h : update store request isPartial pk = .ok write) : Decides store request write := by
  unfold update at h
  split at h
  · cases h
  · rename_i file hfile
    split at h
    · cases h
    · rename_i data hdata
      cases h
      exact .change hroute hfile hdata

theorem decides_knowledge {pk : String} (h : knowledge store request pk = .ok write) :
    Decides store request write := by
  unfold knowledge at h
  split at h
  · cases h
  · rename_i bot hbot
    obtain ⟨hmem, howner⟩ := getChatbot_eq_ok hbot
    split at h
    · cases h
    · dsimp only at h
      split at h
      · cases h
      · rename_i data hdata
        -- the serializer is given the key of the chatbot just found
        obtain ⟨named, hnamed⟩ := serializer_chatbot hdata
        obtain ⟨b, hb, hfield, -⟩ := serializer_eq_ok_iff.mp hdata
        cases hb
        rw [hnamed] at hfield
        obtain ⟨-, hnamedMem, -, v, hv, hkey⟩ := chatbotField_eq_ok_some_iff.mp hfield
        cases hv
        have hid : named.id = bot.id := Int.ofNat.inj (Option.some.inj hkey).symm
        have hsame : named = bot := store.database.chatbots.eq_of_key_eq hnamedMem hmem hid
        simp only [saveNew, hnamed] at h
        cases h
        exact .own true hnamedMem (hsame ▸ howner)

theorem decides_of_view (h : view store request = .ok write) : Decides store request write := by
  unfold view at h
  split at h
  · exact decides_upload h
  · rename_i hroute
    exact decides_create hroute h
  · rename_i pk hroute
    exact decides_update (by rw [hroute]; rfl) h
  · rename_i pk hroute
    exact decides_update (by rw [hroute]; rfl) h
  · unfold destroy at h
    split at h
    · cases h
    · rename_i file hfile
      cases h
      exact .delete hfile
  · exact decides_knowledge h

theorem id_mem_chatbots {bot : Chatbot} (hbot : bot ∈ store.database.chatbots.rows) :
    bot.id ∈ store.knowledge.chatbots := by
  rw [store.sameChatbots]
  exact List.mem_map_of_mem hbot

theorem chatbot_changedFile_mem {tenant : Tenant} {isPartial : Bool}
    {body : Option KnowledgeBody} {file : KnowledgeFile} {data : Validated}
    (hfile : file ∈ store.knowledge.files.rows)
    (hdata : serializer store.database tenant isPartial body = .ok data) (name : String) :
    (changedFile file data name).chatbot ∈ store.knowledge.chatbots := by
  unfold changedFile
  cases hbot : data.chatbot with
  | none => exact store.knowledge.fileOwner file hfile
  | some bot => exact id_mem_chatbots (mem_of_serializer hdata hbot)

theorem commit_of_decides (h : Decides store request write) :
    ∃ after, commit store write = some after ∧ after.database = store.database ∧
      writeKnowledge store.knowledge write = some after.knowledge := by
  have hwrite : ∃ k, writeKnowledge store.knowledge write = some k := by
    cases h with
    | own queued hbot _ => exact ⟨_, dif_pos (id_mem_chatbots hbot)⟩
    | create _ hdata hbot => exact ⟨_, dif_pos (id_mem_chatbots (mem_of_serializer hdata hbot))⟩
    | @change isPartial pk file data _ hfile hdata =>
        have hbots := chatbot_changedFile_mem (getObject_eq_some hfile).1 hdata
          request.storedName
        cases hstored : data.file with
        | true => exact ⟨_, dif_pos hbots⟩
        | false => exact ⟨_, dif_pos hbots⟩
    | delete _ => exact ⟨_, rfl⟩
  obtain ⟨k, hk⟩ := hwrite
  unfold commit
  split
  · rename_i after hafter
    exact ⟨_, rfl, rfl, hafter⟩
  · rename_i hnone
    rw [hk] at hnone
    cases hnone

theorem handle_cases (store : KnowledgeStore E) (request : KnowledgeRequest) :
    (handle store request).1 = store ∨
      ∃ write, Decides store request write ∧
        (handle store request).1.database = store.database ∧
        writeKnowledge store.knowledge write = some (handle store request).1.knowledge := by
  unfold handle
  cases hview : view store request with
  | error e => exact Or.inl rfl
  | ok write =>
      have hdecides := decides_of_view hview
      obtain ⟨after, hcommit, hdatabase, hknowledge⟩ := commit_of_decides hdecides
      refine Or.inr ⟨write, hdecides, ?_⟩
      simp only [hcommit]
      exact ⟨hdatabase, hknowledge⟩

theorem handle_of_view (h : view store request = .ok write) :
    (handle store request).1.database = store.database ∧
      writeKnowledge store.knowledge write = some (handle store request).1.knowledge := by
  obtain ⟨after, hcommit, hdatabase, hknowledge⟩ := commit_of_decides (decides_of_view h)
  simp only [handle, h, hcommit]
  exact ⟨hdatabase, hknowledge⟩

end Views

/-- Every file that the request creates or modifies belongs afterwards to a
chatbot of the user. -/
def KeepsOwnership (store : KnowledgeStore E) (request : KnowledgeRequest) : Prop :=
  ∀ f ∈ (handle store request).1.knowledge.files.rows, f ∉ store.knowledge.files.rows →
    ownerOfChatbot (handle store request).1.database f.chatbot = some request.jwtUser.id

/-- The body names a chatbot that the context shows. -/
def Names (db : Database) (request : KnowledgeRequest) (bot : Chatbot) : Prop :=
  isMalformed request.tenant = false ∧ bot ∈ db.chatbots.rows ∧
    Shows db request.tenant (some bot.id) ∧
    ∃ body value, request.body = some body ∧ body.chatbot = some value ∧
      pkOf value = some (Int.ofNat bot.id)

/-- The file of the body passes its checks, or a partial update has none. -/
def FileAccepted (isPartial : Bool) (request : KnowledgeRequest) : Prop :=
  ∃ body stored, request.body = some body ∧ fileField isPartial body.file = .ok stored

/-- The request is a `create`, or an update of a file of the user, that takes a
chatbot of somebody else from its body. -/
def TakesForeign (store : KnowledgeStore E) (request : KnowledgeRequest) : Prop :=
  ∃ bot, Names store.database request bot ∧ bot.owner ≠ request.jwtUser.id ∧
    ((request.route = .create ∧ FileAccepted false request) ∨
      ∃ isPartial pk, request.route.changes = some (isPartial, pk) ∧
        FileAccepted isPartial request ∧
        (getObject store request.jwtUser.id pk).isSome = true)

section Ownership

variable {store : KnowledgeStore E} {request : KnowledgeRequest}

theorem serializer_of_names {bot : Chatbot} {isPartial : Bool}
    (hnames : Names store.database request bot) (hfile : FileAccepted isPartial request) :
    ∃ data, serializer store.database request.tenant isPartial request.body = .ok data ∧
      data.chatbot = some bot := by
  obtain ⟨hformed, hbot, hshows, body, value, hbody, hvalue, hkey⟩ := hnames
  obtain ⟨body', stored, hbody', hstored⟩ := hfile
  rw [hbody] at hbody'
  cases hbody'
  refine ⟨{ chatbot := some bot, file := stored }, ?_, rfl⟩
  refine serializer_eq_ok_iff.mpr ⟨body, hbody, ?_, hstored⟩
  exact chatbotField_eq_ok_some_iff.mpr ⟨hformed, hbot, hshows, value, hvalue, hkey⟩

theorem names_of_serializer {bot : Chatbot} {isPartial : Bool} {data : Validated}
    (hdata : serializer store.database request.tenant isPartial request.body = .ok data)
    (hbot : data.chatbot = some bot) :
    Names store.database request bot ∧ FileAccepted isPartial request := by
  obtain ⟨body, hbody, hfield, hfile⟩ := serializer_eq_ok_iff.mp hdata
  rw [hbot] at hfield
  obtain ⟨hformed, hmem, hshows, value, hvalue, hkey⟩ := chatbotField_eq_ok_some_iff.mp hfield
  exact ⟨⟨hformed, hmem, hshows, body, value, hbody, hvalue, hkey⟩, body, data.file, hbody, hfile⟩

theorem owner_of_not_takesForeign (h : ¬TakesForeign store request) {isPartial : Bool}
    {data : Validated} {bot : Chatbot}
    (hdata : serializer store.database request.tenant isPartial request.body = .ok data)
    (hbot : data.chatbot = some bot)
    (hroute : (request.route = .create ∧ isPartial = false) ∨
      ∃ pk, request.route.changes = some (isPartial, pk) ∧
        (getObject store request.jwtUser.id pk).isSome = true) :
    ownerOfChatbot store.database bot.id = some request.jwtUser.id := by
  obtain ⟨hnames, hfile⟩ := names_of_serializer hdata hbot
  have howner : bot.owner = request.jwtUser.id := by
    by_contra hne
    refine h ⟨bot, hnames, hne, ?_⟩
    rcases hroute with ⟨hcreate, rfl⟩ | ⟨pk, hchanges, hfound⟩
    · exact Or.inl ⟨hcreate, hfile⟩
    · exact Or.inr ⟨isPartial, pk, hchanges, hfile, hfound⟩
  rw [← howner]
  exact ownerOfChatbot_of_mem hnames.2.1

theorem keepsOwnership_of_not_takesForeign (h : ¬TakesForeign store request) :
    KeepsOwnership store request := by
  intro f hf hnew
  rcases handle_cases store request with hsame | ⟨write, hdecides, hdatabase, hwrite⟩
  · rw [hsame] at hf
    exact absurd hf hnew
  · rw [hdatabase]
    have hrows := (writeKnowledge_eq_some hwrite).2
    cases hdecides with
    | own queued hbot howner =>
        rw [hrows.1] at hf
        rcases (Table.mem_create _ _ f).mp hf with hold | rfl
        · exact absurd hold hnew
        · exact howner ▸ ownerOfChatbot_of_mem hbot
    | @create data bot hroute hdata hbot =>
        rw [hrows.1] at hf
        rcases (Table.mem_create _ _ f).mp hf with hold | rfl
        · exact absurd hold hnew
        · exact owner_of_not_takesForeign h hdata hbot (Or.inl ⟨hroute, rfl⟩)
    | @change isPartial pk file data hroute hfile hdata =>
        rw [hrows.1] at hf
        rcases (Table.mem_save _ _ f).mp hf with rfl | ⟨hold, -⟩
        · cases hbot : data.chatbot with
          | none =>
              simp only [changedFile, hbot, Option.map_none, Option.getD_none]
              exact (getObject_eq_some hfile).2
          | some bot =>
              have hfound : (getObject store request.jwtUser.id pk).isSome = true := by
                rw [hfile]
                rfl
              simp only [changedFile, hbot, Option.map_some, Option.getD_some]
              exact owner_of_not_takesForeign h hdata hbot (Or.inr ⟨pk, hroute, hfound⟩)
        · exact absurd hold hnew
    | delete hfile =>
        rw [hrows.1] at hf
        exact absurd ((Table.mem_delete _ _ f).mp hf).1 hnew

theorem not_keepsOwnership_of_write {f : KnowledgeFile} {bot : Chatbot}
    (hbot : bot ∈ store.database.chatbots.rows) (hne : bot.owner ≠ request.jwtUser.id)
    (hdatabase : (handle store request).1.database = store.database)
    (hf : f ∈ (handle store request).1.knowledge.files.rows)
    (hnew : f ∉ store.knowledge.files.rows) (hfbot : f.chatbot = bot.id) :
    ¬KeepsOwnership store request := by
  intro hkeeps
  have howner := hkeeps f hf hnew
  rw [hdatabase, hfbot, ownerOfChatbot_of_mem hbot] at howner
  exact hne (Option.some.inj howner)

theorem not_keepsOwnership_of_takesForeign (h : TakesForeign store request) :
    ¬KeepsOwnership store request := by
  obtain ⟨bot, hnames, hne, ⟨hroute, hfile⟩ | ⟨isPartial, pk, hroute, hfile, hfound⟩⟩ := h
  · obtain ⟨data, hdata, hbot⟩ := serializer_of_names hnames hfile
    have hview : view store request =
        .ok (.create (newFile bot.id request.storedName) false) := by
      simp only [view, hroute, create, hdata, saveNew, hbot]
    obtain ⟨hdatabase, hwrite⟩ := handle_of_view hview
    have hrows := (writeKnowledge_eq_some hwrite).2.1
    refine not_keepsOwnership_of_write hnames.2.1 hne hdatabase
      (f := store.knowledge.files.created (newFile bot.id request.storedName)) ?_ ?_ rfl
    · rw [hrows]
      exact (Table.mem_create _ _ _).mpr (Or.inr rfl)
    · intro hold
      exact absurd (store.knowledge.files.fresh _ hold) (lt_irrefl _)
  · obtain ⟨data, hdata, hbot⟩ := serializer_of_names hnames hfile
    obtain ⟨file, hgot⟩ := Option.isSome_iff_exists.mp hfound
    have hview : view store request =
        .ok (.change (changedFile file data request.storedName) data.file) := by
      unfold view
      cases hcase : request.route <;> rw [hcase] at hroute <;> cases hroute <;>
        simp only [update, hgot, hdata]
    obtain ⟨hdatabase, hwrite⟩ := handle_of_view hview
    have hrows := (writeKnowledge_eq_some hwrite).2.1
    obtain ⟨hmem, howner⟩ := getObject_eq_some hgot
    have hchatbot : (changedFile file data request.storedName).chatbot = bot.id := by
      simp [changedFile, hbot]
    refine not_keepsOwnership_of_write hnames.2.1 hne hdatabase
      (f := changedFile file data request.storedName) ?_ ?_ hchatbot
    · rw [hrows]
      exact (Table.mem_save _ _ _).mpr (Or.inl rfl)
    · -- the row is another one than before: its chatbot has another owner
      intro hold
      have hsame := store.knowledge.files.eq_of_key_eq hold hmem rfl
      rw [← hsame, hchatbot, ownerOfChatbot_of_mem hnames.2.1] at howner
      exact hne (Option.some.inj howner)

end Ownership

/-- In every run of requests, each of them leaves the files it creates or
modifies with its user exactly when none takes a chatbot of somebody else. -/
theorem requests_keepOwnership_iff (store : KnowledgeStore E)
    (requests : List KnowledgeRequest) :
    (∀ step ∈ visits (fun store request => (handle store request).1) store requests,
        KeepsOwnership step.1 step.2) ↔
      ∀ step ∈ visits (fun store request => (handle store request).1) store requests,
        ¬TakesForeign step.1 step.2 := by
  refine forall₂_congr fun step _ => ?_
  exact ⟨fun hkeeps htakes => not_keepsOwnership_of_takesForeign htakes hkeeps,
    keepsOwnership_of_not_takesForeign⟩

def accountOne : User where
  id := 1
  isSuperuser := false
  role := .user
  id_pos := Nat.one_pos

/-- Two users with a chatbot each. -/
def twoChatbots : KnowledgeStore Unit where
  database :=
    { Database.empty with
      chatbots := (Table.empty.create { supportBot with owner := 1 }).create
        { supportBot with owner := 2 } }
  knowledge :=
    { chatbots := [1, 2]
      files := Table.empty
      chunks := Table.empty
      disk := []
      fileOwner := fun _ hf => by cases hf
      chunkOwner := fun _ hc => by cases hc
      chunkFile := fun _ hc => by cases hc }
  sameChatbots := rfl

/-- The first user sends a text file for a chatbot. -/
def fileFor (route : Route) (chatbot : Int) : KnowledgeRequest where
  sessionUser := none
  jwtUser := accountOne
  xBotId := none
  botIdParam := none
  route := route
  body := some { chatbot := some (.int chatbot), file := some (.upload "notes.txt" 64) }
  storedName := "knowledge_files/notes.txt"

instance (store : KnowledgeStore E) (request : KnowledgeRequest) :
    Decidable (KeepsOwnership store request) :=
  inferInstanceAs (Decidable (∀ f ∈ (handle store request).1.knowledge.files.rows, _ → _))

theorem create_for_stranger :
    ¬∀ step ∈ visits (fun store request => (handle store request).1) twoChatbots
        [fileFor .create 2], KeepsOwnership step.1 step.2 := by
  decide

end Botman.KnowledgeApi
