import Botman.Prompts

/-!
The settings of a chatbot: the requests that edit the draft, `publish`, which
stores a snapshot of it, and the configuration that live traffic is served
with.
-/

namespace Botman.ChatbotSettings

open Botman.Library.PythonValue
open Botman.DataModel
open Botman.Prompts

/-- `Chatbot.get_runtime_config`. -/
def getRuntimeConfig (bot : Chatbot) : Dict :=
  if bot.isPublished ∧ bot.publishedConfig ≠ [] then bot.publishedConfig
  else
    [("name", .str bot.name), ("description", .str bot.description),
      ("system_prompt", .str bot.systemPrompt), ("selected_llm", .str bot.selectedLlm),
      ("allowed_domains", .str bot.allowedDomains),
      ("bot_prompt_config", bot.botPromptConfig),
      ("formatting_config", bot.formattingConfig), ("bot_type", .str bot.botType),
      ("personality", .str bot.personality), ("tone", .str bot.tone),
      ("fallback_behavior", .str bot.fallbackBehavior)]

/-- The attributes of the draft. -/
def draftBot (bot : Chatbot) : PromptBot where
  systemPrompt := .str bot.systemPrompt
  selectedLlm := .str bot.selectedLlm
  botPromptConfig := bot.botPromptConfig
  formattingConfig := bot.formattingConfig
  personality := bot.personality
  tone := bot.tone
  fallbackBehavior := bot.fallbackBehavior

/-- The attributes that `process_chat_message` overrides in memory for live
traffic. -/
def liveBot (bot : Chatbot) : PromptBot :=
  let config := getRuntimeConfig bot
  { draftBot bot with
    systemPrompt := getD config "system_prompt" (.str bot.systemPrompt)
    selectedLlm := getD config "selected_llm" (.str bot.selectedLlm)
    botPromptConfig := getD config "bot_prompt_config" bot.botPromptConfig
    formattingConfig := getD config "formatting_config" bot.formattingConfig }

/-- What the prompt of a call is made of: the draft in a preview, the published
snapshot otherwise. -/
def chatBot (bot : Chatbot) (previewMode : Bool) : PromptBot :=
  if previewMode then draftBot bot else liveBot bot

/-- What `publish` stores. -/
def configSnapshot (bot : Chatbot) (publishedAt : String) : Dict :=
  [("name", .str bot.name), ("description", .str bot.description),
    ("system_prompt", .str bot.systemPrompt), ("selected_llm", .str bot.selectedLlm),
    ("allowed_domains", .str bot.allowedDomains), ("published_at", .str publishedAt)]

/-- `ChatbotViewSet.publish`. -/
def publish (bot : Chatbot) (publishedAt : String) : Chatbot :=
  { bot with
    publishedConfig := configSnapshot bot publishedAt
    isPublished := true
    isActive := true }

/-- The writable fields of `ChatbotSerializer` in a PATCH, each after the
conversion to its type. -/
structure ChatbotPatch where
  name : Option String
  description : Option String
  systemPrompt : Option String
  botType : Option String
  personality : Option String
  tone : Option String
  fallbackBehavior : Option String
  allowedDomains : Option String
  selectedLlm : Option String
  providerConfig : Option (Option Nat)
  isActive : Option Bool

/-- The checks of the serializer, on values that it has converted. -/
def ChatbotPatch.isValid (patch : ChatbotPatch) : Bool :=
  patch.name.all (fun name => 3 ≤ name.length && name.length ≤ 50) &&
    patch.botType.all (fun value => value ∈ botTypeChoices) &&
    patch.tone.all (fun tone => tone.length ≤ 100) &&
    patch.allowedDomains.all (fun domains => domains ≠ "") &&
    patch.selectedLlm.all (fun value => value ∈ llmChoices)

/-- `partial_update`: a patch that fails a validator is answered 400. -/
def applyPatch (patch : ChatbotPatch) (bot : Chatbot) : Chatbot :=
  if ¬ patch.isValid then bot
  else { bot with
    name := patch.name.getD bot.name
    description := patch.description.getD bot.description
    systemPrompt := patch.systemPrompt.getD bot.systemPrompt
    botType := patch.botType.getD bot.botType
    personality := patch.personality.getD bot.personality
    tone := patch.tone.getD bot.tone
    fallbackBehavior := patch.fallbackBehavior.getD bot.fallbackBehavior
    allowedDomains := patch.allowedDomains.getD bot.allowedDomains
    selectedLlm := patch.selectedLlm.getD bot.selectedLlm
    providerConfig := patch.providerConfig.getD bot.providerConfig
    isActive := patch.isActive.getD bot.isActive }

/-- What a text column stores for an assigned value; a null is refused by the
database. -/
def textColumn (repr : Json → String) : Json → Option String
  | .null => none
  | value => some (str repr value)

/-- The value that a request leaves in a text column: the assigned one where the
field is present. -/
def assigned (repr : Json → String) (data : Dict) (field current : String) :
    Option String :=
  match data.lookup field with
  | none => some current
  | some value => textColumn repr value

/-- `update_settings`.  The values are not validated; where one is null, or the
body is no dictionary, nothing is saved. -/
def updateSettings (repr : Json → String) (data : Json) (bot : Chatbot) : Chatbot :=
  match data with
  | .obj fields =>
      match assigned repr fields "name" bot.name,
        assigned repr fields "description" bot.description,
        assigned repr fields "system_prompt" bot.systemPrompt,
        assigned repr fields "allowed_domains" bot.allowedDomains with
      | some name, some description, some systemPrompt, some allowedDomains =>
          { bot with
            name := name
            description := description
            systemPrompt := systemPrompt
            allowedDomains := allowedDomains }
      | _, _, _, _ => bot
  | _ => bot

/-- `provider`: only a stored value of `LLM_CHOICES` is accepted. -/
def provider (data : Json) (bot : Chatbot) : Chatbot :=
  match data with
  | .obj fields =>
      match fields.lookup "selected_llm" with
      | some (.str value) =>
          if value ∈ llmChoices then { bot with selectedLlm := value } else bot
      | _ => bot
  | _ => bot

/-- The requests that change the draft. -/
inductive DraftEdit where
  | patch (data : ChatbotPatch)
  | settings (data : Json)
  | provider (data : Json)

def applyEdit (repr : Json → String) (bot : Chatbot) : DraftEdit → Chatbot
  | .patch data => applyPatch data bot
  | .settings data => updateSettings repr data bot
  | .provider data => ChatbotSettings.provider data bot

/-- Edits one after the other. -/
def applyEdits (repr : Json → String) : Chatbot → List DraftEdit → Chatbot
  | bot, [] => bot
  | bot, edit :: rest => applyEdits repr (applyEdit repr bot edit) rest

/-- What no edit of the draft touches. -/
structure SameRelease (before after : Chatbot) : Prop where
  id : after.id = before.id
  widgetToken : after.widgetToken = before.widgetToken
  isPublished : after.isPublished = before.isPublished
  publishedConfig : after.publishedConfig = before.publishedConfig
  botPromptConfig : after.botPromptConfig = before.botPromptConfig
  formattingConfig : after.formattingConfig = before.formattingConfig
  owner : after.owner = before.owner

theorem SameRelease.refl (bot : Chatbot) : SameRelease bot bot :=
  ⟨rfl, rfl, rfl, rfl, rfl, rfl, rfl⟩

theorem SameRelease.trans {first second third : Chatbot} (h : SameRelease first second)
    (h' : SameRelease second third) : SameRelease first third :=
  ⟨h'.id.trans h.id, h'.widgetToken.trans h.widgetToken,
    h'.isPublished.trans h.isPublished, h'.publishedConfig.trans h.publishedConfig,
    h'.botPromptConfig.trans h.botPromptConfig,
    h'.formattingConfig.trans h.formattingConfig, h'.owner.trans h.owner⟩

theorem sameRelease_applyEdit (repr : Json → String) (bot : Chatbot) (edit : DraftEdit) :
    SameRelease bot (applyEdit repr bot edit) := by
  cases edit with
  | patch data =>
      change SameRelease bot (applyPatch data bot)
      unfold applyPatch
      split
      · exact SameRelease.refl bot
      · exact ⟨rfl, rfl, rfl, rfl, rfl, rfl, rfl⟩
  | settings data =>
      change SameRelease bot (updateSettings repr data bot)
      unfold updateSettings
      split
      · split
        · exact ⟨rfl, rfl, rfl, rfl, rfl, rfl, rfl⟩
        · exact SameRelease.refl bot
      · exact SameRelease.refl bot
  | provider data =>
      change SameRelease bot (ChatbotSettings.provider data bot)
      unfold ChatbotSettings.provider
      split
      · split
        · split
          · exact ⟨rfl, rfl, rfl, rfl, rfl, rfl, rfl⟩
          · exact SameRelease.refl bot
        · exact SameRelease.refl bot
      · exact SameRelease.refl bot

theorem sameRelease_applyEdits (repr : Json → String) (bot : Chatbot)
    (edits : List DraftEdit) : SameRelease bot (applyEdits repr bot edits) := by
  induction edits generalizing bot with
  | nil => exact SameRelease.refl bot
  | cons edit rest ih =>
      exact (sameRelease_applyEdit repr bot edit).trans (ih (applyEdit repr bot edit))

end Botman.ChatbotSettings
