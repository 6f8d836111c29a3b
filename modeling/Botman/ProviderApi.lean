import Botman.DataModel

/-!
The versioned provider configurations: `ProviderConfiguration` rows, their
serializer's `create` and `update`, and the requests of
`ProviderConfigurationViewSet`.

A request carries the outcome of the serializer's validation.  Encryption, the
JSON text of the credentials and the providers' client libraries are the
parameter `ProviderServices`.
-/

namespace Botman.ProviderApi

open Botman.Library.KeyedTable
open Botman.Library.PythonValue
open Botman.DataModel

/-- The choices of the column `provider_type`. -/
inductive ProviderType where
  | openai
  | anthropic
  | google
  | azure
  | custom
  deriving DecidableEq, Repr

def ProviderType.text : ProviderType → String
  | .openai => "openai"
  | .anthropic => "anthropic"
  | .google => "google"
  | .azure => "azure"
  | .custom => "custom"

/-- A row of `ProviderConfiguration`; a version after the first names the root as its
parent. -/
structure ProviderConfiguration where
  id : Nat
  providerType : ProviderType
  name : String
  configData : Json
  encryptedCredentials : Option String
  isActive : Bool
  version : Nat
  parentConfig : Option Nat
  createdBy : Option Nat

inductive AuditAction where
  | create
  | update
  | delete
  | test
  | rollback
  deriving DecidableEq, Repr

/-- A row of `ProviderAuditLog`. -/
structure ProviderAuditLog where
  id : Nat
  user : Nat
  providerName : String
  action : AuditAction
  details : Dict
  status : String

instance : HasKey ProviderConfiguration where
  key := ProviderConfiguration.id
  withKey := fun n r => { r with id := n }
  key_withKey := fun _ _ => rfl

instance : HasKey ProviderAuditLog where
  key := ProviderAuditLog.id
  withKey := fun n r => { r with id := n }
  key_withKey := fun _ _ => rfl

/-- The two tables of the module. -/
structure ProviderStore where
  configurations : Table ProviderConfiguration
  auditLogs : Table ProviderAuditLog

def ProviderStore.empty : ProviderStore where
  configurations := .empty
  auditLogs := .empty

/-- What the provider code imports: `json`, the Fernet cipher with the random
bytes of one call, and the client libraries, whose calls succeed or raise. -/
structure ProviderServices where
  dumps : Dict → String
  loads : String → Option Json
  encrypt : Nat → String → String
  decrypt : String → Option String
  connect : ProviderType → Dict → Except String Unit

/-- `encrypt_data`; an empty text is not encrypted. -/
def encryptData (services : ProviderServices) (nonce : Nat) (data : String) :
    Option String :=
  if data = "" then none else some (services.encrypt nonce data)

/-- `decrypt_data`; absent where there is nothing, or where the token is not one of
the key. -/
def decryptData (services : ProviderServices) : Option String → Option String
  | none => none
  | some data => if data = "" then none else services.decrypt data

/-- The credentials are stored as one encrypted text. -/
def setCredentials (services : ProviderServices) (nonce : Nat) (credentials : Dict)
    (config : ProviderConfiguration) : ProviderConfiguration :=
  { config with encryptedCredentials := encryptData services nonce (services.dumps credentials) }

/-- `get_credentials`, absent where it raises: `json.loads` of the `None` that
a failed decryption returns, or of a text that is not JSON. -/
def getCredentials (services : ProviderServices) (config : ProviderConfiguration) :
    Option Json :=
  if config.encryptedCredentials = none ∨ config.encryptedCredentials = some "" then
    some (.obj [])
  else (decryptData services config.encryptedCredentials).bind services.loads

/-- The validated body of a creation; absent fields take the column's default. -/
structure NewProvider where
  providerType : ProviderType
  name : String
  configData : Option Json
  credentials : Option Dict
  isActive : Option Bool

/-- The validated body of a PUT or PATCH. -/
structure ProviderChanges where
  providerType : Option ProviderType
  name : Option String
  configData : Option Json
  credentials : Option Dict
  isActive : Option Bool

/-- The key that `parent_config or instance` refers to. -/
def ProviderConfiguration.root (config : ProviderConfiguration) : Nat :=
  config.parentConfig.getD config.id

def ProviderConfiguration.retired (config : ProviderConfiguration) :
    ProviderConfiguration :=
  { config with isActive := false }

/-- The row that a creation inserts for `created_by = user`. -/
def newConfiguration (user : Nat) (data : NewProvider) : ProviderConfiguration where
  id := 0
  providerType := data.providerType
  name := data.name
  configData := data.configData.getD (.obj [])
  encryptedCredentials := none
  isActive := data.isActive.getD true
  version := 1
  parentConfig := none
  createdBy := some user

/-- `ProviderConfigurationSerializer.create`: the saved row and the table. -/
def createConfiguration (services : ProviderServices) (nonce user : Nat)
    (configurations : Table ProviderConfiguration) (data : NewProvider) :
    ProviderConfiguration × Table ProviderConfiguration :=
  let row := newConfiguration user data
  let inserted := configurations.created row
  let table := configurations.create row
  match data.credentials with
  | none => (inserted, table)
  | some credentials =>
      if credentials.isEmpty then (inserted, table)
      else
        let saved := setCredentials services nonce credentials inserted
        (saved, table.save saved)

/-- The row that an update inserts, before the credentials are set. -/
def nextVersion (config : ProviderConfiguration) (changes : ProviderChanges) :
    ProviderConfiguration where
  id := 0
  providerType := changes.providerType.getD config.providerType
  name := changes.name.getD config.name
  configData := changes.configData.getD config.configData
  encryptedCredentials := none
  isActive := changes.isActive.getD config.isActive
  version := config.version + 1
  parentConfig := some config.root
  createdBy := config.createdBy

/-- The inserted row of an update with its credentials: the given ones, or
those of the old version. -/
def withCredentials (services : ProviderServices) (nonce : Nat)
    (config : ProviderConfiguration) (changes : ProviderChanges)
    (inserted : ProviderConfiguration) : ProviderConfiguration :=
  match changes.credentials with
  | some credentials => setCredentials services nonce credentials inserted
  | none => { inserted with encryptedCredentials := config.encryptedCredentials }

/-- `ProviderConfigurationSerializer.update`. -/
def updateConfiguration (services : ProviderServices) (nonce : Nat)
    (configurations : Table ProviderConfiguration) (config : ProviderConfiguration)
    (changes : ProviderChanges) : ProviderConfiguration × Table ProviderConfiguration :=
  let row := nextVersion config changes
  let inserted := configurations.created row
  let table := configurations.create row
  let saved := withCredentials services nonce config changes inserted
  (saved, (table.save saved).save config.retired)

/-- The row that a rollback of `current` to the version `target` inserts. -/
def rolledBack (current target : ProviderConfiguration) (user : Nat) :
    ProviderConfiguration where
  id := 0
  providerType := target.providerType
  name := target.name
  configData := target.configData
  encryptedCredentials := target.encryptedCredentials
  isActive := true
  version := current.version + 1
  parentConfig := some current.root
  createdBy := some user

/-- The versions that a rollback looks up: those whose parent is the root. -/
def rollbackTargets (configurations : Table ProviderConfiguration)
    (current : ProviderConfiguration) (version : Int) : List ProviderConfiguration :=
  configurations.rows.filter fun c =>
    c.parentConfig = some current.root && (c.version : Int) = version

/-- `get_object` over the queryset of active configurations. -/
def activeConfiguration (configurations : Table ProviderConfiguration) (pk : String) :
    Option ProviderConfiguration :=
  (intOfString pk).bind fun key =>
    configurations.rows.find? fun c => c.isActive && (c.id : Int) = key

/-- The actions of the view set. -/
inductive ProviderAction where
  | create (data : Option NewProvider)
  | update (pk : String) (changes : Option ProviderChanges)
  | rollback (pk : String) (data : Json)
  | testConnection (pk : String)
  | destroy (pk : String)

/-- A request, with the random bytes and the time its handling will see. -/
structure ProviderCall where
  user : Option User
  nonce : Nat
  elapsed : ℚ
  action : ProviderAction

/-- Its responses; `refused` is one without a message of the view. -/
inductive ProviderResponse where
  | refused (status : Nat)
  | error (status : Nat) (message : String)
  | saved (status : Nat) (config : ProviderConfiguration)
  | tested (success : Bool) (message : String)
  | deleted

/-- A row of the log. -/
def writeAudit (store : ProviderStore) (user : Nat) (name : String)
    (action : AuditAction) (details : Dict) (status : String) : ProviderStore :=
  { store with
    auditLogs := store.auditLogs.create
      { id := 0, user := user, providerName := name, action := action
        details := details, status := status } }

/-- `perform_create`. -/
def performCreate (services : ProviderServices) (nonce user : Nat)
    (store : ProviderStore) (data : NewProvider) : ProviderStore × ProviderResponse :=
  let result := createConfiguration services nonce user store.configurations data
  (writeAudit { store with configurations := result.2 } user result.1.name .create
      [("id", .int result.1.id), ("provider_type", .str result.1.providerType.text)]
      "success",
    .saved 201 result.1)

/-- `perform_update`. -/
def performUpdate (services : ProviderServices) (nonce user : Nat)
    (store : ProviderStore) (config : ProviderConfiguration)
    (changes : ProviderChanges) : ProviderStore × ProviderResponse :=
  let result := updateConfiguration services nonce store.configurations config changes
  (writeAudit { store with configurations := result.2 } user result.1.name .update
      [("id", .int result.1.id), ("version", .int result.1.version)] "success",
    .saved 200 result.1)

/-- `credentials.get(key)`, where only a dictionary has the method. -/
def credential (credentials : Json) (key : String) : Except String Json :=
  match credentials with
  | .obj fields => .ok (get fields key)
  | value => .error ("'" ++ typeName value ++ "' object has no attribute 'get'")

/-- The body of the `try` statement of `test_connection`. -/
def tryConnection (services : ProviderServices) (providerType : ProviderType)
    (credentials : Json) : Except String Unit :=
  match providerType with
  | .openai | .google | .anthropic => do
      let apiKey ← credential credentials "api_key"
      if truthy apiKey then services.connect providerType [("api_key", apiKey)]
      else .error "API Key is missing"
  | .azure => do
      let apiKey ← credential credentials "api_key"
      let endpoint ← credential credentials "endpoint"
      let apiVersion :=
        match credentials with
        | .obj fields => getD fields "api_version" (.str "2023-05-15")
        | _ => .null
      if truthy apiKey && truthy endpoint then
        services.connect providerType
          [("api_key", apiKey), ("api_version", apiVersion), ("azure_endpoint", endpoint)]
      else .error "API Key or Endpoint is missing"
  | .custom => .error ("Test connection not implemented for " ++ providerType.text)

/-- `test_connection`, which logs failures as well. -/
def testConnection (services : ProviderServices) (elapsed : ℚ) (user : Nat)
    (store : ProviderStore) (config : ProviderConfiguration) :
    ProviderStore × ProviderResponse :=
  match getCredentials services config with
  | none => (store, .refused 500)
  | some credentials =>
      match tryConnection services config.providerType credentials with
      | .ok _ =>
          (writeAudit store user config.name .test
              [("error", .str ""), ("response_time_ms", .float elapsed)] "success",
            .tested true "Connection successful")
      | .error message =>
          (writeAudit store user config.name .test
              [("error", .str message), ("response_time_ms", .float elapsed)] "failure",
            .tested false ("Connection failed: " ++ message))

/-- `rollback`, once the configuration is found. -/
def rollback (user : Nat) (store : ProviderStore) (current : ProviderConfiguration)
    (data : Json) : ProviderStore × ProviderResponse :=
  match data with
  | .obj fields =>
      let version := get fields "version"
      if truthy version then
        match intOf version with
        | none => (store, .refused 500)
        | some number =>
            match rollbackTargets store.configurations current number with
            | [] => (store, .error 404 "Version not found")
            | [target] =>
                let row := rolledBack current target user
                let inserted := store.configurations.created row
                let table := (store.configurations.create row).save current.retired
                (writeAudit { store with configurations := table } user inserted.name
                    .rollback
                    [("from_version", .int current.version), ("to_version", version)]
                    "success",
                  .saved 200 inserted)
            | _ :: _ :: _ => (store, .refused 500)
      else (store, .error 400 "Version is required")
  | _ => (store, .refused 500)

/-- `perform_destroy`: the versions that name the row as their parent lose the
reference, then the row is deleted. -/
def destroy (store : ProviderStore) (config : ProviderConfiguration) :
    ProviderStore × ProviderResponse :=
  let detached := store.configurations.modify
    (fun c => c.parentConfig = some config.id) fun c => { c with parentConfig := none }
  ({ store with configurations := detached.delete fun c => c.id = config.id }, .deleted)

/-- The actions look up a configuration among the active ones. -/
def onActive (store : ProviderStore) (pk : String)
    (body : ProviderConfiguration → ProviderStore × ProviderResponse) :
    ProviderStore × ProviderResponse :=
  match activeConfiguration store.configurations pk with
  | none => (store, .refused 404)
  | some config => body config

/-- The routes, for a user that `IsAdminOrReadOnly` lets write. -/
def dispatch (services : ProviderServices) (store : ProviderStore) (call : ProviderCall)
    (user : Nat) : ProviderStore × ProviderResponse :=
  match call.action with
  | .create none => (store, .refused 400)
  | .create (some data) => performCreate services call.nonce user store data
  | .update pk changes =>
      onActive store pk fun config =>
        match changes with
        | none => (store, .refused 400)
        | some changes => performUpdate services call.nonce user store config changes
  | .rollback pk data => onActive store pk fun config => rollback user store config data
  | .testConnection pk =>
      onActive store pk fun config => testConnection services call.elapsed user store config
  | .destroy pk => onActive store pk fun config => destroy store config

/-- One request to `ProviderConfigurationViewSet` that is not a safe method. -/
def handle (services : ProviderServices) (store : ProviderStore) (call : ProviderCall) :
    ProviderStore × ProviderResponse :=
  match call.user with
  | none => (store, .refused 401)
  | some user =>
      match user.role with
      | .user => (store, .refused 403)
      | .admin => dispatch services store call user.id

/-- Requests one after the other. -/
def handleAll (services : ProviderServices) (store : ProviderStore) :
    List ProviderCall → ProviderStore
  | [] => store
  | call :: rest => handleAll services (handle services store call).1 rest

end Botman.ProviderApi
