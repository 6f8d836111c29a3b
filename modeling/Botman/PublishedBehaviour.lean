import Botman.WidgetApi

/-!
What live traffic sees of a published chatbot while its draft is edited: the
language model, the prompt of every message, and the configuration of the
widget.

The snapshot that `publish` takes covers the system prompt and the model.  The
personality, the tone and the fallback behaviour are read from the draft, and
so are the name in the welcome message and the active flag.
-/

namespace Botman.PublishedBehaviour

open Botman.Library.PythonValue
open Botman.DataModel
open Botman.Prompts
open Botman.ChatbotSettings
open Botman.WidgetApi

variable (repr : Json → String) (text : TextServices) (debug : Bool)

/-- Two states of a chatbot that live traffic cannot tell apart. -/
structure SameLiveBehaviour (published current : Chatbot) : Prop where
  llm : (liveBot current).selectedLlm = (liveBot published).selectedLlm
  prompt : ∀ context history question,
    buildRagPrompt repr (liveBot current) context history question =
      buildRagPrompt repr (liveBot published) context history question
  widget : ∀ headers,
    widgetConfig text debug headers current = widgetConfig text debug headers published

/-- The persona sections, with the lines before them. -/
def personaText (bot : Chatbot) (config : Dict) : String :=
  joinTail "\n\n" (personaParts repr (draftBot bot) config)

/-- The fields that live traffic reads from the draft still say what they said:
the chatbot is active, its name is the same unless the allow-list admits nobody,
and, where prompts can be built at all, personality, tone and fallback behaviour
spell the same text. -/
structure DraftKept (published current : Chatbot) : Prop where
  active : current.isActive = true
  name : current.name = published.name ∨
    ∀ headers, validateOrigin text debug headers published ≠ some true
  persona : ∀ config formatting, configDict published.botPromptConfig = some config →
    configDict published.formattingConfig = some formatting →
      personaText repr current config = personaText repr published config
  fallback : ∀ config formatting, configDict published.botPromptConfig = some config →
    configDict published.formattingConfig = some formatting →
      fallbackSystem repr (draftBot current) config =
        fallbackSystem repr (draftBot published) config

section Published

variable {bot current : Chatbot} {publishedAt : String}

theorem getRuntimeConfig_published (h : SameRelease (publish bot publishedAt) current) :
    getRuntimeConfig current = configSnapshot bot publishedAt := by
  have hpublished : current.isPublished = true := h.isPublished
  have hconfig : current.publishedConfig = configSnapshot bot publishedAt :=
    h.publishedConfig
  have hne : configSnapshot bot publishedAt ≠ [] := by simp [configSnapshot]
  simp [getRuntimeConfig, hpublished, hconfig, hne]

theorem liveBot_published (h : SameRelease (publish bot publishedAt) current) :
    liveBot current =
      { draftBot current with
        systemPrompt := .str bot.systemPrompt
        selectedLlm := .str bot.selectedLlm
        botPromptConfig := bot.botPromptConfig
        formattingConfig := bot.formattingConfig } := by
  have hprompt : current.botPromptConfig = bot.botPromptConfig := h.botPromptConfig
  have hformatting : current.formattingConfig = bot.formattingConfig := h.formattingConfig
  simp [liveBot, getRuntimeConfig_published h, configSnapshot, getD, hprompt,
    hformatting, List.lookup_cons]

theorem validateOrigin_published (h : SameRelease (publish bot publishedAt) current)
    (headers : OriginHeaders) :
    validateOrigin text debug headers current =
      validateOrigin text debug headers (publish bot publishedAt) := by
  unfold validateOrigin
  rw [getRuntimeConfig_published h, getRuntimeConfig_published (SameRelease.refl _)]

end Published

theorem promptText_eq_append (bot : PromptBot) (config formatting : Dict)
    (context history : String) (question : Json) :
    promptText repr bot config formatting context history question =
      "System:\n" ++
        ((if context ≠ "" then contextSystem else fallbackSystem repr bot config) ++
          (formattingInstruction formatting ++
            (joinTail "\n\n" (personaParts repr bot config) ++
              joinTail "\n\n"
                (remainingParts repr bot config context history question)))) := by
  unfold promptText
  rw [join_eq_append_joinTail, joinTail_append]
  simp only [String.append_assoc]

/-- Two chatbots that share the later sections have the same prompts exactly
when their persona sections and their fallback texts agree.  A message with
context shows the former, a message without the latter. -/
theorem promptText_eq_iff {first second : PromptBot} {config formatting : Dict}
    (hsystem : second.systemPrompt = first.systemPrompt) :
    (∀ context history question,
      promptText repr second config formatting context history question =
        promptText repr first config formatting context history question) ↔
      joinTail "\n\n" (personaParts repr second config) =
          joinTail "\n\n" (personaParts repr first config) ∧
        fallbackSystem repr second config = fallbackSystem repr first config := by
  have hrest : ∀ context history question,
      remainingParts repr second config context history question =
        remainingParts repr first config context history question := by
    intro context history question
    simp only [remainingParts, hsystem]
  constructor
  · intro h
    have hpersona : joinTail "\n\n" (personaParts repr second config) =
        joinTail "\n\n" (personaParts repr first config) := by
      have hcontext := h "context" "" (.str "")
      have hne : "context" ≠ "" := by decide
      rw [promptText_eq_append, promptText_eq_append, if_pos hne, if_pos hne, hrest] at hcontext
      simpa only [String.append_right_inj, String.append_left_inj] using hcontext
    refine ⟨hpersona, ?_⟩
    have hgeneral := h "" "" (.str "")
    rw [promptText_eq_append, promptText_eq_append, if_neg (by simp), if_neg (by simp),
      hrest, hpersona] at hgeneral
    simpa only [String.append_right_inj, String.append_left_inj] using hgeneral
  · rintro ⟨hpersona, hfallback⟩ context history question
    rw [promptText_eq_append, promptText_eq_append, hrest, hpersona, hfallback]

section Exactly

variable {bot current : Chatbot} {publishedAt : String}

theorem prompt_kept_iff (h : SameRelease (publish bot publishedAt) current) :
    (∀ context history question,
      buildRagPrompt repr (liveBot current) context history question =
        buildRagPrompt repr (liveBot (publish bot publishedAt)) context history question) ↔
      ∀ config formatting, configDict bot.botPromptConfig = some config →
        configDict bot.formattingConfig = some formatting →
          personaText repr current config =
              personaText repr (publish bot publishedAt) config ∧
            fallbackSystem repr (draftBot current) config =
              fallbackSystem repr (draftBot (publish bot publishedAt)) config := by
  rw [liveBot_published h, liveBot_published (SameRelease.refl (publish bot publishedAt))]
  unfold buildRagPrompt
  dsimp only
  cases hconfig : configDict bot.botPromptConfig with
  | none => simp
  | some config =>
      cases hformatting : configDict bot.formattingConfig with
      | none => simp
      | some formatting =>
          simp only [Option.bind_some, Option.map_some, Option.some.injEq]
          refine Iff.trans (promptText_eq_iff repr (by rfl)) ⟨?_, ?_⟩
          · rintro hkept _ _ rfl rfl
            exact hkept
          · intro hkept
            exact hkept config formatting rfl rfl

theorem widgetGate_published (h : SameRelease (publish bot publishedAt) current)
    (hactive : current.isActive = true) (headers : OriginHeaders) :
    widgetGate text debug headers current =
      match validateOrigin text debug headers (publish bot publishedAt) with
      | none => .raised
      | some false => .refused 403 "Origin not allowed"
      | some true => .passed := by
  have hpublished : current.isPublished = true := h.isPublished
  have hstatus : validateBotStatus current = none := by
    simp [validateBotStatus, hactive, hpublished]
  have horigin := validateOrigin_published text debug h headers
  cases hvalue : validateOrigin text debug headers (publish bot publishedAt) with
  | none => simp only [widgetGate, hstatus, horigin, hvalue]
  | some allowed => cases allowed <;> simp only [widgetGate, hstatus, horigin, hvalue]

theorem widgetConfig_published (h : SameRelease (publish bot publishedAt) current)
    (hactive : current.isActive = true) (headers : OriginHeaders)
    (hname : validateOrigin text debug headers (publish bot publishedAt) = some true →
      current.name = bot.name) :
    widgetConfig text debug headers current =
      widgetConfig text debug headers (publish bot publishedAt) := by
  have hfirst := SameRelease.refl (publish bot publishedAt)
  unfold widgetConfig
  rw [widgetGate_published text debug h hactive, widgetGate_published text debug hfirst rfl]
  cases horigin : validateOrigin text debug headers (publish bot publishedAt) with
  | none => rfl
  | some allowed =>
      cases allowed with
      | false => rfl
      | true =>
          have hid : current.id = bot.id := h.id
          have htoken : current.widgetToken = bot.widgetToken := h.widgetToken
          dsimp only
          rw [getRuntimeConfig_published h, getRuntimeConfig_published hfirst, hid, htoken,
            hname horigin]
          rfl

theorem isActive_of_widgetConfig_eq {headers : OriginHeaders}
    (hsame : widgetConfig text debug headers current =
      widgetConfig text debug headers (publish bot publishedAt)) :
    current.isActive = true := by
  -- an inactive chatbot is refused in words of its own
  by_contra hoff
  have hinactive : current.isActive = false := by simpa using hoff
  have hgate : widgetGate text debug headers current = .refused 403 "Bot is inactive." := by
    simp [widgetGate, validateBotStatus, hinactive]
  unfold widgetConfig at hsame
  rw [hgate, widgetGate_published text debug (SameRelease.refl (publish bot publishedAt)) rfl]
    at hsame
  cases horigin : validateOrigin text debug headers (publish bot publishedAt) with
  | none => simp [horigin] at hsame
  | some allowed => cases allowed <;> simp [horigin] at hsame

theorem name_of_widgetConfig_eq (h : SameRelease (publish bot publishedAt) current)
    {headers : OriginHeaders}
    (hpass : validateOrigin text debug headers (publish bot publishedAt) = some true)
    (hsame : widgetConfig text debug headers current =
      widgetConfig text debug headers (publish bot publishedAt)) :
    current.name = bot.name := by
  have hactive := isActive_of_widgetConfig_eq text debug hsame
  unfold widgetConfig at hsame
  rw [widgetGate_published text debug h hactive,
    widgetGate_published text debug (SameRelease.refl (publish bot publishedAt)) rfl, hpass]
    at hsame
  have hwelcome : "Hi! I'm " ++ current.name ++ ". How can I help?" =
      "Hi! I'm " ++ bot.name ++ ". How can I help?" :=
    (WidgetConfig.mk.inj (WidgetConfigResponse.config.inj hsame)).2.2.2.2.2.2.2.1
  simpa only [String.append_left_inj, String.append_right_inj] using hwelcome

theorem widget_kept_iff (h : SameRelease (publish bot publishedAt) current) :
    (∀ headers, widgetConfig text debug headers current =
        widgetConfig text debug headers (publish bot publishedAt)) ↔
      current.isActive = true ∧
        (current.name = bot.name ∨
          ∀ headers, validateOrigin text debug headers (publish bot publishedAt) ≠
            some true) := by
  constructor
  · intro hsame
    refine ⟨isActive_of_widgetConfig_eq text debug (hsame ⟨none, none⟩), ?_⟩
    by_cases hname : current.name = bot.name
    · exact Or.inl hname
    · exact Or.inr fun headers hpass =>
        hname (name_of_widgetConfig_eq text debug h hpass (hsame headers))
  · rintro ⟨hactive, hname⟩ headers
    refine widgetConfig_published text debug h hactive headers ?_
    intro horigin
    exact hname.resolve_right fun hnobody => hnobody headers horigin

end Exactly

/-- Live traffic is served as right after the publication exactly as long as the
fields that it reads from the draft are kept. -/
theorem sameLiveBehaviour_iff (bot : Chatbot) (publishedAt : String)
    (edits : List DraftEdit) :
    SameLiveBehaviour repr text debug (publish bot publishedAt)
        (applyEdits repr (publish bot publishedAt) edits) ↔
      DraftKept repr text debug (publish bot publishedAt)
        (applyEdits repr (publish bot publishedAt) edits) := by
  have hrelease := sameRelease_applyEdits repr (publish bot publishedAt) edits
  have hprompt := prompt_kept_iff repr hrelease
  have hwidget := widget_kept_iff text debug hrelease
  constructor
  · intro h
    have hkept := hprompt.mp h.prompt
    obtain ⟨hactive, hname⟩ := hwidget.mp h.widget
    refine ⟨hactive, hname, ?_, ?_⟩
    · intro config formatting hconfig hformatting
      exact (hkept config formatting hconfig hformatting).1
    · intro config formatting hconfig hformatting
      exact (hkept config formatting hconfig hformatting).2
  · intro h
    refine ⟨?_, hprompt.mpr ?_, hwidget.mpr ⟨h.active, h.name⟩⟩
    · rw [liveBot_published hrelease,
        liveBot_published (SameRelease.refl (publish bot publishedAt))]
    · intro config formatting hconfig hformatting
      exact ⟨h.persona config formatting hconfig hformatting,
        h.fallback config formatting hconfig hformatting⟩

def plainBot : Chatbot where
  id := 1
  name := "Support"
  description := ""
  systemPrompt := "You are a helpful AI assistant."
  selectedLlm := "gemini"
  providerConfig := none
  botType := "custom"
  personality := ""
  tone := ""
  fallbackBehavior := ""
  widgetToken := 7
  allowedDomains := "*"
  isActive := true
  isPublished := false
  publishedConfig := []
  botPromptConfig := .obj []
  formattingConfig := .obj []
  owner := 1

def personalityPatch : ChatbotPatch where
  name := none
  description := none
  systemPrompt := none
  botType := none
  personality := some "Talk like a pirate."
  tone := none
  fallbackBehavior := none
  allowedDomains := none
  selectedLlm := none
  providerConfig := none
  isActive := none

theorem personalityPatch_reaches_live :
    ¬ SameLiveBehaviour (fun _ => "") ⟨id, fun _ => true⟩ false
      (publish plainBot "2026-01-01 00:00:00+00:00")
      (applyEdits (fun _ => "") (publish plainBot "2026-01-01 00:00:00+00:00")
        [.patch personalityPatch]) := by
  intro h
  have hprompt := h.prompt "" "" (.str "Hello")
  revert hprompt
  decide +kernel

end Botman.PublishedBehaviour
