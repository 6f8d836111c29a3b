import Botman.ProviderAudit

/-!
The credentials of a provider configuration: what the admin form makes of them,
and what `test_connection` does where they cannot be read.

The form shows no stored credential.  It always submits an object with the
inputs that were typed into, and `update` takes that object for the credentials
of the new version.
-/

namespace Botman.ProviderCredentials

open Botman.Library.KeyedTable
open Botman.Library.PythonValue
open Botman.DataModel
open Botman.ProviderApi
open Botman.ProviderVersions
open Botman.ProviderAudit

section Form

/-- `formData` of `AdminProviderConfig`. -/
structure EditForm where
  providerType : ProviderType
  name : String
  credentials : Dict
  configData : Json
  isActive : Bool

/-- The names of the credential inputs in `PROVIDER_TEMPLATES`; there is no
template for a custom provider. -/
def credentialFields : ProviderType → List String
  | .openai => ["api_key", "organization_id"]
  | .anthropic => ["api_key"]
  | .google => ["api_key"]
  | .azure => ["api_key", "endpoint"]
  | .custom => []

/-- `{ ...fields, [name]: value }`. -/
def assignField (fields : Dict) (name : String) (value : Json) : Dict :=
  if fields.any fun p => p.1 = name then
    fields.map fun p => if p.1 = name then (name, value) else p
  else fields ++ [(name, value)]

/-- A change of an input element.  What becomes of the other settings is part of
the event. -/
inductive FormEvent where
  | providerType (value : ProviderType) (configData : Json)
  | name (value : String)
  | credential (field value : String)
  | configData (value : Json)

/-- `handleInputChange`: another provider type empties the credentials. -/
def handleInputChange (form : EditForm) : FormEvent → EditForm
  | .providerType value configData =>
      { form with providerType := value, credentials := [], configData := configData }
  | .name value => { form with name := value }
  | .credential field value =>
      if field ∈ credentialFields form.providerType then
        { form with credentials := assignField form.credentials field (.str value) }
      else form
  | .configData value => { form with configData := value }

/-- The form as it is opened: the credentials are not shown, so they are empty. -/
def handleEdit (provider : ProviderConfiguration) : EditForm where
  providerType := provider.providerType
  name := provider.name
  credentials := []
  configData := provider.configData
  isActive := provider.isActive

/-- The form after what was typed into it. -/
def edited (provider : ProviderConfiguration) (events : List FormEvent) : EditForm :=
  events.foldl handleInputChange (handleEdit provider)

/-- The validated body of the PATCH with all of `formData`, absent where the name
is refused. -/
def EditForm.validated (form : EditForm) : Option ProviderChanges :=
  let name := strip form.name
  if name = "" ∨ 100 < name.length then none
  else
    some
      { providerType := some form.providerType
        name := some name
        configData := some form.configData
        credentials := some form.credentials
        isActive := some form.isActive }

def IsTexts (fields : Dict) : Prop :=
  ∀ p ∈ fields, ∃ s, p.2 = .str s

theorem isTexts_assignField {fields : Dict} (h : IsTexts fields) (name value : String) :
    IsTexts (assignField fields name (.str value)) := by
  unfold assignField
  split
  · intro p hp
    obtain ⟨q, hq, rfl⟩ := List.mem_map.mp hp
    split
    · exact ⟨value, rfl⟩
    · exact h q hq
  · intro p hp
    rcases List.mem_append.mp hp with hp | hp
    · exact h p hp
    · rw [List.mem_singleton.mp hp]
      exact ⟨value, rfl⟩

theorem isTexts_handleInputChange {form : EditForm} (h : IsTexts form.credentials)
    (event : FormEvent) : IsTexts (handleInputChange form event).credentials := by
  cases event with
  | providerType value configData => exact fun p hp => absurd hp List.not_mem_nil
  | name value => exact h
  | credential field value =>
      simp only [handleInputChange]
      split
      · exact isTexts_assignField h field value
      · exact h
  | configData value => exact h

theorem isTexts_edited (provider : ProviderConfiguration) (events : List FormEvent) :
    IsTexts (edited provider events).credentials := by
  have hrun : ∀ form : EditForm, IsTexts form.credentials →
      IsTexts (events.foldl handleInputChange form).credentials := by
    induction events with
    | nil => exact fun _ h => h
    | cons event rest ih => exact fun form h => ih _ (isTexts_handleInputChange h event)
  exact hrun _ fun p hp => absurd hp List.not_mem_nil

end Form

section Editing

/-- Fernet decrypts what it encrypts, and `json` parses the text of an object of
texts; neither writes an empty text. -/
structure Inverts (services : ProviderServices) : Prop where
  decrypt_encrypt : ∀ nonce data, services.decrypt (services.encrypt nonce data) = some data
  encrypt_ne_empty : ∀ nonce data, services.encrypt nonce data ≠ ""
  loads_dumps : ∀ fields, IsTexts fields → services.loads (services.dumps fields) =
    some (.obj fields)
  dumps_ne_empty : ∀ fields, services.dumps fields ≠ ""

def isBlank : Json → Bool
  | .str s => s = ""
  | _ => false

/-- A field that was submitted and is not blank. -/
def filledIn (sent : Dict) (key : String) : Option Json :=
  (sent.lookup key).filter fun value => !isBlank value

/-- The intended result: what is filled in replaces what is stored, and nothing else
does. -/
def overridden (stored sent : Dict) (key : String) : Option Json :=
  (filledIn sent key).or (stored.lookup key)

/-- The update creates a version with the credentials that "Leave empty to keep
current" promises. -/
def KeepsBlank (services : ProviderServices) (config : ProviderConfiguration) (sent : Dict)
    (response : ProviderResponse) : Prop :=
  ∃ stored new fields, getCredentials services config = some (.obj stored) ∧
    response = .saved 200 new ∧ getCredentials services new = some (.obj fields) ∧
    ∀ key, fields.lookup key = overridden stored sent key

theorem lookup_eq_overridden_iff (stored sent : Dict) (key : String) :
    sent.lookup key = overridden stored sent key ↔
      (filledIn sent key = none → sent.lookup key = stored.lookup key) := by
  unfold overridden
  cases hfilled : filledIn sent key with
  | none => simp
  | some value =>
      obtain ⟨hlookup, -⟩ := Option.filter_eq_some_iff.mp hfilled
      simp [hlookup]

theorem getCredentials_setCredentials {services : ProviderServices} (h : Inverts services)
    (nonce : Nat) {fields : Dict} (htexts : IsTexts fields) (config : ProviderConfiguration) :
    getCredentials services (setCredentials services nonce fields config) =
      some (.obj fields) := by
  have hencrypted : (setCredentials services nonce fields config).encryptedCredentials =
      some (services.encrypt nonce (services.dumps fields)) := by
    rw [setCredentials, encryptData, if_neg (h.dumps_ne_empty fields)]
  have hne := h.encrypt_ne_empty nonce (services.dumps fields)
  rw [getCredentials, hencrypted, if_neg (by simp [hne]), decryptData, if_neg hne,
    h.decrypt_encrypt, Option.bind_some, h.loads_dumps fields htexts]

/-- A submission of the edit form keeps the credentials that were left blank
exactly when there is none to keep: whatever is not filled in is not stored
either, or is submitted as it is stored. -/
theorem edit_keeps_blank_iff {services : ProviderServices} (hinverts : Inverts services)
    {store : ProviderStore} {call : ProviderCall} {user : User} {pk : String}
    {config : ProviderConfiguration} {stored : Dict} {events : List FormEvent}
    {changes : ProviderChanges}
    (huser : call.user = some user) (hadmin : user.role = .admin)
    (hactive : activeConfiguration store.configurations pk = some config)
    (hstored : getCredentials services config = some (.obj stored))
    (hvalid : (edited config events).validated = some changes)
    (haction : call.action = .update pk (some changes)) :
    KeepsBlank services config (edited config events).credentials
        (handle services store call).2 ↔
      ∀ key, filledIn (edited config events).credentials key = none →
        (edited config events).credentials.lookup key = stored.lookup key := by
  have hcredentials : changes.credentials = some (edited config events).credentials := by
    unfold EditForm.validated at hvalid
    dsimp only at hvalid
    split at hvalid
    · cases hvalid
    · cases hvalid
      rfl
  have hnew : ∃ inserted, (handle services store call).2 =
      .saved 200 (setCredentials services call.nonce (edited config events).credentials
        inserted) := by
    refine ⟨store.configurations.created (nextVersion config changes), ?_⟩
    simp only [handle, huser, hadmin, dispatch, haction, onActive, hactive, performUpdate,
      updateConfiguration, withCredentials, hcredentials]
  obtain ⟨inserted, hresponse⟩ := hnew
  have hread := getCredentials_setCredentials hinverts call.nonce
    (isTexts_edited config events) inserted
  rw [forall_congr' fun key => (lookup_eq_overridden_iff stored
    (edited config events).credentials key).symm]
  constructor
  · rintro ⟨stored, new, fields, hstored', hsaved, hfields, hlookup⟩
    cases hstored.symm.trans hstored'
    cases hresponse.symm.trans hsaved
    cases hread.symm.trans hfields
    exact hlookup
  · intro hlookup
    exact ⟨_, _, _, hstored, hresponse, hread, hlookup⟩

end Editing

section Testing

/-- `test_connection` answers and logs the test, as a failure where there are no
credentials to be had from the column. -/
def Reported (services : ProviderServices) (store : ProviderStore)
    (config : ProviderConfiguration) (result : ProviderStore × ProviderResponse) : Prop :=
  ∃ success message log, result.2 = .tested success message ∧
    result.1.auditLogs.rows = store.auditLogs.rows ++ [log] ∧ log.action = .test ∧
    (decryptData services config.encryptedCredentials = none → log.status = "failure")

/-- The column is blank, or its content decrypts to a JSON text. -/
def Readable (services : ProviderServices) (config : ProviderConfiguration) : Prop :=
  config.encryptedCredentials = none ∨ config.encryptedCredentials = some "" ∨
    ∃ text credentials, decryptData services config.encryptedCredentials = some text ∧
      services.loads text = some credentials

variable {services : ProviderServices} {config : ProviderConfiguration}

theorem readable_iff : Readable services config ↔ ∃ credentials,
    getCredentials services config = some credentials := by
  unfold Readable getCredentials
  split
  · rename_i hblank
    refine iff_of_true ?_ ⟨_, rfl⟩
    rcases hblank with hnone | hempty
    · exact Or.inl hnone
    · exact Or.inr (Or.inl hempty)
  · rename_i hblank
    simp only [Option.bind_eq_some_iff]
    constructor
    · rintro (hnone | hempty | ⟨text, credentials, hdecrypt, hloads⟩)
      · exact absurd (Or.inl hnone) hblank
      · exact absurd (Or.inr hempty) hblank
      · exact ⟨credentials, text, hdecrypt, hloads⟩
    · rintro ⟨credentials, text, hdecrypt, hloads⟩
      exact Or.inr (Or.inr ⟨text, credentials, hdecrypt, hloads⟩)

theorem tryConnection_empty (services : ProviderServices) (providerType : ProviderType) :
    ∃ message, tryConnection services providerType (.obj []) = .error message := by
  cases providerType with
  | openai => exact ⟨_, rfl⟩
  | anthropic => exact ⟨_, rfl⟩
  | google => exact ⟨_, rfl⟩
  | azure => exact ⟨_, rfl⟩
  | custom => exact ⟨_, rfl⟩

theorem credentials_of_undecrypted {credentials : Json}
    (hread : getCredentials services config = some credentials)
    (hnone : decryptData services config.encryptedCredentials = none) :
    credentials = .obj [] := by
  unfold getCredentials at hread
  split at hread
  · cases hread
    rfl
  · rw [hnone] at hread
    cases hread

theorem reported_of_read {store : ProviderStore} {credentials : Json} (elapsed : ℚ) (user : Nat)
    (hread : getCredentials services config = some credentials) :
    Reported services store config (testConnection services elapsed user store config) := by
  unfold testConnection
  rw [hread]
  dsimp only
  split
  · rename_i htried
    refine ⟨_, _, _, rfl, rfl, rfl, ?_⟩
    intro hnone
    rw [credentials_of_undecrypted hread hnone] at htried
    obtain ⟨message, hfailed⟩ := tryConnection_empty services config.providerType
    cases htried.symm.trans hfailed
  · exact ⟨_, _, _, rfl, rfl, rfl, fun _ => rfl⟩

/-- A test of an active configuration is answered and logged exactly when its
credentials are readable: `get_credentials` is called before the `try` statement,
and `json.loads` raises for the `None` of a failed decryption. -/
theorem test_reported_iff {store : ProviderStore} {call : ProviderCall} {user : User}
    {pk : String} (huser : call.user = some user) (hadmin : user.role = .admin)
    (haction : call.action = .testConnection pk)
    (hactive : activeConfiguration store.configurations pk = some config) :
    Reported services store config (handle services store call) ↔
      Readable services config := by
  simp only [handle, huser, hadmin, dispatch, haction, onActive, hactive]
  rw [readable_iff]
  cases hread : getCredentials services config with
  | none =>
      refine iff_of_false ?_ ?_
      · rintro ⟨success, message, log, htested, -⟩
        rw [testConnection, hread] at htested
        cases htested
      · rintro ⟨credentials, hcredentials⟩
        cases hcredentials
  | some credentials => exact iff_of_true (reported_of_read _ _ hread) ⟨credentials, rfl⟩

end Testing

section SpelledServices

/-- A spelling of texts that can be read back, in place of `json.dumps`. -/
def spell (s : String) : List Char :=
  s.toList.flatMap (fun c => ['+', c]) ++ ['.']

def unspell : List Char → Option (List Char × List Char)
  | '.' :: rest => some ([], rest)
  | '+' :: c :: rest => (unspell rest).map fun p => (c :: p.1, p.2)
  | _ => none

def textOfJson : Json → String
  | .str s => s
  | _ => ""

def spellFields (fields : Dict) : List Char :=
  fields.flatMap fun p => spell p.1 ++ spell (textOfJson p.2)

def unspellFields : Nat → List Char → Option Dict
  | _, [] => some []
  | 0, _ => none
  | fuel + 1, text =>
      (unspell text).bind fun key =>
        (unspell key.2).bind fun value =>
          (unspellFields fuel value.2).map fun fields =>
            (String.ofList key.1, .str (String.ofList value.1)) :: fields

/-- A cipher and a JSON module for objects of texts. -/
def spelledServices : ProviderServices where
  dumps := fun fields => String.ofList ('{' :: spellFields fields)
  loads := fun text =>
    match text.toList with
    | '{' :: rest => (unspellFields rest.length rest).map .obj
    | _ => none
  encrypt := fun _ data => String.ofList ('#' :: data.toList)
  decrypt := fun token =>
    match token.toList with
    | '#' :: rest => some (String.ofList rest)
    | _ => none
  connect := fun _ _ => .ok ()

theorem unspell_spell (s : String) (rest : List Char) :
    unspell (spell s ++ rest) = some (s.toList, rest) := by
  unfold spell
  induction s.toList with
  | nil => rfl
  | cons c cs ih =>
      rw [List.flatMap_cons, List.append_assoc, List.append_assoc, List.cons_append,
        List.cons_append, List.nil_append, unspell, ← List.append_assoc, ih]
      rfl

theorem length_le_spellFields (fields : Dict) : fields.length ≤ (spellFields fields).length := by
  induction fields with
  | nil => exact Nat.le_refl 0
  | cons p rest ih =>
      simp only [spellFields, spell, List.flatMap_cons, List.length_append, List.length_cons,
        List.length_nil] at ih ⊢
      omega

theorem unspellFields_spellFields {fields : Dict} (htexts : IsTexts fields) {fuel : Nat}
    (hfuel : fields.length ≤ fuel) :
    unspellFields fuel (spellFields fields) = some fields := by
  induction fields generalizing fuel with
  | nil => cases fuel <;> rfl
  | cons p rest ih =>
      obtain ⟨key, value⟩ := p
      obtain ⟨s, rfl⟩ : ∃ s, value = .str s := htexts (key, value) List.mem_cons_self
      have hstep : ∀ n, unspellFields (n + 1) (spellFields ((key, .str s) :: rest)) =
          (unspellFields n (spellFields rest)).map fun fields => (key, .str s) :: fields := by
        intro n
        have hwhole : spellFields ((key, .str s) :: rest) =
            spell key ++ (spell s ++ spellFields rest) := by
          rw [spellFields, List.flatMap_cons, List.append_assoc]
          rfl
        rw [hwhole, unspellFields, unspell_spell, Option.bind_some, unspell_spell,
          Option.bind_some, String.ofList_toList, String.ofList_toList]
        simp [spell]
      cases fuel with
      | zero => cases hfuel
      | succ fuel =>
          rw [hstep, ih (fun q hq => htexts q (List.mem_cons_of_mem _ hq))
            (Nat.le_of_succ_le_succ hfuel)]
          rfl

theorem inverts_spelledServices : Inverts spelledServices where
  decrypt_encrypt := by
    intro nonce data
    simp [spelledServices]
  encrypt_ne_empty := by
    intro nonce data hempty
    have hlength := congrArg String.length hempty
    simp [spelledServices] at hlength
  loads_dumps := by
    intro fields htexts
    simp [spelledServices, unspellFields_spellFields htexts (length_le_spellFields fields)]
  dumps_ne_empty := by
    intro fields hempty
    have hlength := congrArg String.length hempty
    simp [spelledServices] at hlength

def configWith (content : Option String) : ProviderConfiguration where
  id := 1
  providerType := .openai
  name := "OpenAI"
  configData := .obj []
  encryptedCredentials := content
  isActive := true
  version := 1
  parentConfig := none
  createdBy := some 1

def storeWith (content : Option String) : ProviderStore :=
  { ProviderStore.empty with configurations := Table.empty.create (configWith content) }

def keyContent : Option String :=
  encryptData spelledServices 0 (spelledServices.dumps [("api_key", .str "sk-1")])

/-- The form of the stored configuration is submitted. -/
def submitted (events : List FormEvent) : ProviderCall :=
  requestBy (admin 1 Nat.one_pos) (.update "1" (edited (configWith keyContent) events).validated)

theorem getCredentials_keyContent :
    getCredentials spelledServices (configWith keyContent) =
      some (.obj [("api_key", .str "sk-1")]) := rfl

def newKey : List FormEvent := [.credential "api_key" "sk-2"]

theorem newKey_keeps_blank :
    (edited (configWith keyContent) newKey).credentials = [("api_key", .str "sk-2")] ∧
      KeepsBlank spelledServices (configWith keyContent)
        (edited (configWith keyContent) newKey).credentials
        (handle spelledServices (storeWith keyContent) (submitted newKey)).2 := by
  have hvalid : ∃ changes, (edited (configWith keyContent) newKey).validated = some changes :=
    ⟨_, rfl⟩
  obtain ⟨changes, hchanges⟩ := hvalid
  refine ⟨rfl, (edit_keeps_blank_iff inverts_spelledServices rfl rfl rfl
    getCredentials_keyContent hchanges (congrArg (ProviderAction.update "1") hchanges)).mpr ?_⟩
  intro key hblank
  change List.lookup key ([("api_key", Json.str "sk-2")] : Dict) =
    List.lookup key ([("api_key", Json.str "sk-1")] : Dict)
  by_cases hkey : key = "api_key"
  · subst hkey
    cases hblank
  · rw [List.lookup_cons, List.lookup_cons, beq_eq_false_iff_ne.mpr hkey]

/-- The form is submitted for another name.  The new version has credentials to
show, and they are empty. -/
theorem rename_wipes_key :
    ∃ new, (handle spelledServices (storeWith keyContent) (submitted [.name "Renamed"])).2 =
        .saved 200 new ∧
      new.encryptedCredentials ≠ none ∧
      getCredentials spelledServices new = some (.obj []) ∧
      ¬ KeepsBlank spelledServices (configWith keyContent) []
        (handle spelledServices (storeWith keyContent) (submitted [.name "Renamed"])).2 := by
  refine ⟨_, rfl, ?_, rfl, ?_⟩
  · exact Option.some_ne_none _
  · rintro ⟨stored, new, fields, hstored, hsaved, hfields, hlookup⟩
    cases getCredentials_keyContent.symm.trans hstored
    cases hsaved
    cases hfields
    cases hlookup "api_key"

def testedBy (content : Option String) : ProviderStore × ProviderResponse :=
  handle spelledServices (storeWith content)
    (requestBy (admin 1 Nat.one_pos) (.testConnection "1"))

theorem keyContent_reported :
    Reported spelledServices (storeWith keyContent) (configWith keyContent)
      (testedBy keyContent) :=
  (test_reported_iff rfl rfl rfl rfl).mpr (Or.inr (Or.inr ⟨_, _, rfl, rfl⟩))

/-- A token of another key: the response is 500, and nothing is logged. -/
theorem foreignToken_raises :
    decryptData spelledServices (some "gAAAAA") = none ∧
      (testedBy (some "gAAAAA")).2 = .refused 500 ∧
      (testedBy (some "gAAAAA")).1.auditLogs.rows = [] ∧
      ¬ Reported spelledServices (storeWith (some "gAAAAA")) (configWith (some "gAAAAA"))
        (testedBy (some "gAAAAA")) := by
  refine ⟨rfl, rfl, rfl, ?_⟩
  rintro ⟨success, message, log, htested, -⟩
  cases htested

end SpelledServices

end Botman.ProviderCredentials
