import Botman.Library.ReadModifyWrite
import Botman.ChatbotLimits

/-!
Concurrent edits of one chatbot: `update_settings`, `provider`, `publish` and
PATCH each fetch the row, assign some attributes and call `save`, which writes
all columns.
-/

namespace Botman.ChatbotConcurrency

open Botman.Library.PythonValue
open Botman.Library.Transition
open Botman.Library.ReadModifyWrite
open Botman.DataModel
open Botman.ChatbotSettings
open Botman.ChatbotLimits

/-- The columns that some request assigns. -/
inductive Field where
  | name
  | description
  | systemPrompt
  | selectedLlm
  | providerConfig
  | botType
  | personality
  | tone
  | fallbackBehavior
  | allowedDomains
  | isActive
  | isPublished
  | publishedConfig
  deriving DecidableEq

/-- The type of a column. -/
def Field.Value : Field → Type
  | .providerConfig => Option Nat
  | .isActive => Bool
  | .isPublished => Bool
  | .publishedConfig => Dict
  | _ => String

/-- The value of a column. -/
def column : (f : Field) → Chatbot → f.Value
  | .name, bot => bot.name
  | .description, bot => bot.description
  | .systemPrompt, bot => bot.systemPrompt
  | .selectedLlm, bot => bot.selectedLlm
  | .providerConfig, bot => bot.providerConfig
  | .botType, bot => bot.botType
  | .personality, bot => bot.personality
  | .tone, bot => bot.tone
  | .fallbackBehavior, bot => bot.fallbackBehavior
  | .allowedDomains, bot => bot.allowedDomains
  | .isActive, bot => bot.isActive
  | .isPublished, bot => bot.isPublished
  | .publishedConfig, bot => bot.publishedConfig

/-- The requests that change a chatbot. -/
inductive BotRequest where
  | settings (data : Json)
  | provider (data : Json)
  | publish (publishedAt : String)
  | patch (data : ChatbotPatch)

/-- The fields that `update_settings` assigns. -/
def allowedFields : List String := ["name", "description", "system_prompt", "allowed_domains"]

def isNull : Json → Bool
  | .null => true
  | _ => false

def namesField : Json → Bool
  | .str s => s ∈ allowedFields
  | _ => false

/-- `field in text`, for a text. -/
def isSubstring (field text : String) : Bool :=
  text.toList.tails.any fun rest => field.toList.isPrefixOf rest

/-- Whether `update_settings` gets to `save` and the save is accepted: no field
of the body that it assigns is null.  A list or a text without the names of the
fields is saved past, and any other body raises. -/
def settingsSaves : Json → Bool
  | .obj fields => allowedFields.all fun field => !(fields.lookup field).any isNull
  | .arr items => items.all fun item => !namesField item
  | .str s => allowedFields.all fun field => !isSubstring field s
  | _ => false

/-- The value of `LLM_CHOICES` that `provider` stores. -/
def providerChoice : Json → Option String
  | .obj fields =>
      match fields.lookup "selected_llm" with
      | some (.str value) => if value ∈ llmChoices then some value else none
      | _ => none
  | _ => none

/-- The row that a request saves, made of the row it has read; absent where the
request is refused. -/
def savedRow (repr : Json → String) : BotRequest → Chatbot → Option Chatbot
  | .settings data, bot =>
      if settingsSaves data then some (updateSettings repr data bot) else none
  | .provider data, bot => (providerChoice data).map fun _ => ChatbotSettings.provider data bot
  | .publish publishedAt, bot => some (ChatbotSettings.publish bot publishedAt)
  | .patch data, bot => if data.isValid then some (applyPatch data bot) else none

/-- The fields of the body that `update_settings` assigns. -/
def settingsWrites (data : Json) (field : String) : Bool :=
  match data with
  | .obj fields => (fields.lookup field).isSome
  | _ => false

/-- The columns that a request assigns; `save` writes all of them. -/
def writes : BotRequest → Field → Bool
  | .settings data, .name => settingsWrites data "name"
  | .settings data, .description => settingsWrites data "description"
  | .settings data, .systemPrompt => settingsWrites data "system_prompt"
  | .settings data, .allowedDomains => settingsWrites data "allowed_domains"
  | .settings _, _ => false
  | .provider data, .selectedLlm => (providerChoice data).isSome
  | .provider _, _ => false
  | .publish _, .publishedConfig => true
  | .publish _, .isPublished => true
  | .publish _, .isActive => true
  | .publish _, _ => false
  | .patch data, .name => data.name.isSome
  | .patch data, .description => data.description.isSome
  | .patch data, .systemPrompt => data.systemPrompt.isSome
  | .patch data, .selectedLlm => data.selectedLlm.isSome
  | .patch data, .providerConfig => data.providerConfig.isSome
  | .patch data, .botType => data.botType.isSome
  | .patch data, .personality => data.personality.isSome
  | .patch data, .tone => data.tone.isSome
  | .patch data, .fallbackBehavior => data.fallbackBehavior.isSome
  | .patch data, .allowedDomains => data.allowedDomains.isSome
  | .patch data, .isActive => data.isActive.isSome
  | .patch _, _ => false

theorem getD_of_isSome_eq_false {α : Type} {o : Option α} (h : o.isSome = false) (a : α) :
    o.getD a = a := by
  rw [Option.isSome_eq_false_iff, Option.isNone_iff_eq_none] at h
  rw [h, Option.getD_none]

theorem column_applyPatch {data : ChatbotPatch} {f : Field}
    (h : writes (.patch data) f = false) (bot : Chatbot) :
    column f (applyPatch data bot) = column f bot := by
  unfold applyPatch
  split
  · rfl
  · cases f with
    | isPublished => rfl
    | publishedConfig => rfl
    | _ => exact getD_of_isSome_eq_false h _

theorem assigned_of_not_writes (repr : Json → String) {fields : Dict} {field : String}
    (h : settingsWrites (.obj fields) field = false) (current : String) :
    assigned repr fields field current = some current := by
  have hnone : fields.lookup field = none := by
    simpa [settingsWrites] using h
  simp [assigned, hnone]

theorem column_updateSettings (repr : Json → String) {data : Json} {f : Field}
    (h : writes (.settings data) f = false) (bot : Chatbot) :
    column f (updateSettings repr data bot) = column f bot := by
  unfold updateSettings
  split
  · rename_i fields
    split
    · rename_i name description systemPrompt allowedDomains hname hdescription hprompt hdomains
      cases f with
      | name =>
          rw [assigned_of_not_writes repr h] at hname
          exact (Option.some.inj hname).symm
      | description =>
          rw [assigned_of_not_writes repr h] at hdescription
          exact (Option.some.inj hdescription).symm
      | systemPrompt =>
          rw [assigned_of_not_writes repr h] at hprompt
          exact (Option.some.inj hprompt).symm
      | allowedDomains =>
          rw [assigned_of_not_writes repr h] at hdomains
          exact (Option.some.inj hdomains).symm
      | _ => rfl
    · rfl
  · rfl

theorem column_provider {data : Json} {f : Field} (hf : f ≠ .selectedLlm) (bot : Chatbot) :
    column f (ChatbotSettings.provider data bot) = column f bot := by
  unfold ChatbotSettings.provider
  split
  · split
    · split
      · cases f with
        | selectedLlm => exact absurd rfl hf
        | _ => rfl
      · rfl
    · rfl
  · rfl

theorem column_savedRow (repr : Json → String) (request : BotRequest) (bot saved : Chatbot)
    (h : savedRow repr request bot = some saved) (f : Field) (hf : ¬writes request f = true) :
    column f saved = column f bot := by
  rw [Bool.not_eq_true] at hf
  cases request with
  | settings data =>
      simp only [savedRow] at h
      split at h
      · cases h
        exact column_updateSettings repr hf bot
      · cases h
  | provider data =>
      obtain ⟨value, hvalue, rfl⟩ := Option.map_eq_some_iff.mp h
      refine column_provider (fun hsame => ?_) bot
      subst hsame
      simp [writes, hvalue] at hf
  | publish publishedAt =>
      cases h
      cases f with
      | isActive => cases hf
      | isPublished => cases hf
      | publishedConfig => cases hf
      | _ => rfl
  | patch data =>
      simp only [savedRow] at h
      split at h
      · cases h
        exact column_applyPatch hf bot
      · cases h

def Writes (request : BotRequest) (f : Field) : Prop :=
  writes request f = true

/-- In every run in which no request writes back stale values of columns that
others assigned, the row has the change of every finished request, whatever the
interleaving. -/
theorem reaches_keeps_changes (repr : Json → String) {ι : Type} [DecidableEq ι]
    {c d : Config ι Chatbot (Request BotRequest Chatbot)} (hdisjoint : DisjointWrites Writes c)
    (hstart : ∀ i, (c.locals i).phase = .waiting)
    (hrun : Reaches (interleave (access (savedRow repr))) (Unstale column Writes) c d) :
    ∀ i saved, (d.locals i).phase = .finished (some saved) →
      (∃ row, savedRow repr (d.locals i).query row = some saved) ∧
        ∀ f, Writes (d.locals i).query f → column f d.shared = column f saved := by
  intro i saved hi
  refine ⟨saved_of_reaches hstart hrun i saved hi, ?_⟩
  exact kept_of_reaches (column_savedRow repr) hdisjoint hstart hrun i saved hi

/-- One tab of the studio renames the chatbot, another one selects a
provider. -/
def tabRequest : Bool → BotRequest
  | false => .settings (.obj [("name", .str "Sales")])
  | true => .provider (.obj [("selected_llm", .str "openai")])

/-- Two tabs of the dashboard change one chatbot. -/
def twoTabs : Config Bool Chatbot (Request BotRequest Chatbot) where
  shared := newChatbot "Support" (fieldsNamed "Support") 1 1
  locals := fun tab => { query := tabRequest tab, phase := .waiting }

def plainRepr : Json → String := fun _ => ""

theorem disjointWrites_twoTabs : DisjointWrites Writes twoTabs := by
  rintro (_ | _) (_ | _) hij f
  · exact absurd rfl hij
  · cases f <;> simp [Writes, writes, twoTabs, tabRequest]
  · cases f <;> simp [Writes, writes, twoTabs, tabRequest]
  · exact absurd rfl hij

/-- Both tabs are done, the first one saved its name, and the row has the old
one. -/
def nameLost (c : Config Bool Chatbot (Request BotRequest Chatbot)) : Bool :=
  match (c.locals false).phase, (c.locals true).phase with
  | .finished (some saved), .finished (some _) =>
      (saved.name = "Sales" && c.shared.name = "Support") &&
        writes (c.locals false).query .name
  | _, _ => false

/-- Both tabs read, then both save: the second save brings the old name back. -/
theorem rename_lost :
    DisjointWrites Writes twoTabs ∧
      ∃ c, Reaches (interleave (access (savedRow plainRepr))) anyStep twoTabs c ∧
        ∃ saved, (c.locals false).phase = .finished (some saved) ∧
          Writes (c.locals false).query .name ∧ column .name c.shared ≠ column .name saved := by
  refine ⟨disjointWrites_twoTabs, ?_⟩
  have hlost : ∃ c, Reaches (interleave (access (savedRow plainRepr))) anyStep twoTabs c ∧
      nameLost c = true :=
    exists_reaches_of_replay [(false, .read), (true, .read), (false, .write), (true, .write)]
      (by decide)
  obtain ⟨c, hrun, hc⟩ := hlost
  refine ⟨c, hrun, ?_⟩
  unfold nameLost at hc
  split at hc
  · rename_i saved other hsaved hother
    simp only [Bool.and_eq_true, decide_eq_true_eq] at hc
    refine ⟨saved, hsaved, hc.2, ?_⟩
    change c.shared.name ≠ saved.name
    rw [hc.1.1, hc.1.2]
    decide
  · cases hc

theorem tabs_in_turn :
    ∃ c, Reaches (interleave (access (savedRow plainRepr))) (Unstale column Writes) twoTabs c ∧
      (c.locals true).phase ≠ .waiting ∧ column .name c.shared = "Sales" := by
  -- the row in memory is the stored one whenever a tab saves
  have hfresh : ∀ (c : Config Bool Chatbot (Request BotRequest Chatbot)) (i : Bool),
      (c.locals i).phase = .holding c.shared → Unstale column Writes c (i, .write) := by
    intro c i hi _ row hrow j saved _ f _
    rw [hi] at hrow
    cases hrow
    rfl
  have hread : ∀ (c : Config Bool Chatbot (Request BotRequest Chatbot)) (i : Bool),
      Unstale column Writes c (i, .read) := fun _ _ h => by cases h
  have hrun : ∃ c, Reaches (interleave (access (savedRow plainRepr))) (Unstale column Writes)
      twoTabs c ∧ (∃ saved, (c.locals false).phase = .finished (some saved) ∧
        saved.name = "Sales" ∧ Writes (c.locals false).query .name) ∧
      ∃ saved, (c.locals true).phase = .finished saved :=
    ⟨_, Reaches.head (hread twoTabs false) rfl <| Reaches.head (hfresh _ false rfl) rfl <|
      Reaches.head (hread _ true) rfl <| Reaches.head (hfresh _ true rfl) rfl .refl,
      ⟨_, rfl, rfl, rfl⟩, _, rfl⟩
  obtain ⟨c, hrun, ⟨saved, hsaved, hname, hwrites⟩, other, hother⟩ := hrun
  have hkept := reaches_keeps_changes plainRepr disjointWrites_twoTabs (fun _ => rfl) hrun
    false saved hsaved
  refine ⟨c, hrun, by rw [hother]; simp, ?_⟩
  rw [hkept.2 .name hwrites]
  exact hname

end Botman.ChatbotConcurrency
