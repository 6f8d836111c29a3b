import Botman.DataModel

/-!
`build_rag_prompt`: the text that is sent to a language model, made of the
attributes of the chatbot object, the retrieved context, the history and the
question.

Attributes that come from a JSON column can be any value.  The text of a value
that is not a string is the parameter `repr`; a configuration that is neither
falsy nor a dictionary has no method `get`, and the prompt is then absent.
-/

namespace Botman.Prompts

open Botman.Library.PythonValue

/-- The attributes of a chatbot object that the prompt and the choice of the
model read. -/
structure PromptBot where
  systemPrompt : Json
  selectedLlm : Json
  botPromptConfig : Json
  formattingConfig : Json
  personality : String
  tone : String
  fallbackBehavior : String

/-- `config or {}` as a dictionary, absent where it has no method `get`. -/
def configDict (config : Json) : Option Dict :=
  if truthy config then
    match config with
    | .obj fields => some fields
    | _ => none
  else some []

def markdownParts : List String :=
  ["Format your response using proper Markdown.", "Use headers (##) for sections.",
    "Use bullet points for lists."]

def codeBlockPart : String :=
  "Use code blocks with language tags for snippets (e.g., ```python)."

def tablePart : String :=
  "Use markdown tables for structured data when applicable."

/-- The sentences for the options that are switched on, as they are by default. -/
def formattingParts (config : Dict) : List String :=
  (if truthy (getD config "use_markdown" (.bool true)) then markdownParts else []) ++
    (if truthy (getD config "use_code_blocks" (.bool true)) then [codeBlockPart] else []) ++
    (if truthy (getD config "use_tables" (.bool true)) then [tablePart] else [])

def formattingInstruction (config : Dict) : String :=
  if formattingParts config = [] then ""
  else
    "\nIMPORTANT: " ++ join " " (formattingParts config) ++
      " Keep paragraphs short and use bold text for key terms."

/-- The system text of a prompt with context. -/
def contextSystem : String :=
  "You are a business AI assistant.\nAnswer using provided context.\n" ++
    "If answer not found say you don't know."

/-- The system text of a prompt without context, unless the chatbot has its own. -/
def generalSystem : String :=
  "You are a business AI assistant.\n" ++
    "Answer the user's question helpfully and accurately using your general knowledge."

/-- `field or config.get(key, '')` for a text column. -/
def fieldOrConfig (field : Json) (config : Dict) (key : String) : Json :=
  orElse field (getD config key (.str ""))

/-- A section with a label, left out where its value is falsy. -/
def labelled (label : String) (repr : Json → String) (value : Json) : List String :=
  if truthy value then [label ++ str repr value] else []

/-- The system text without context: the fallback behaviour, where there is
one. -/
def fallbackSystem (repr : Json → String) (bot : PromptBot) (config : Dict) : String :=
  let fallback := fieldOrConfig (.str bot.fallbackBehavior) config "fallback_prompt"
  if truthy fallback then str repr fallback else generalSystem

/-- The sections that describe the chatbot. -/
def personaParts (repr : Json → String) (bot : PromptBot) (config : Dict) :
    List String :=
  labelled "Personality:\n" repr
      (fieldOrConfig (.str bot.personality) config "personality") ++
    labelled "Tone:\n" repr (.str bot.tone)

/-- The sections after them, down to the question. -/
def remainingParts (repr : Json → String) (bot : PromptBot) (config : Dict)
    (context history : String) (question : Json) : List String :=
  labelled "Chatbot Instructions:\n" repr
      (fieldOrConfig bot.systemPrompt config "system_prompt") ++
    labelled "Guardrails:\n" repr (getD config "guardrails" (.str "")) ++
    labelled "Context Information:\n" repr (.str context) ++
    labelled "Conversation History:\n" repr (.str history) ++
    ["User Question: " ++ str repr question]

/-- The sections of the prompt, with an empty line between them. -/
def promptText (repr : Json → String) (bot : PromptBot) (config formatting : Dict)
    (context history : String) (question : Json) : String :=
  let baseSystem := if context ≠ "" then contextSystem else fallbackSystem repr bot config
  join "\n\n"
    (("System:\n" ++ baseSystem ++ formattingInstruction formatting) ::
      (personaParts repr bot config ++
        remainingParts repr bot config context history question))

/-- `build_rag_prompt`, absent where a stored configuration is not a dictionary. -/
def buildRagPrompt (repr : Json → String) (bot : PromptBot) (context history : String)
    (question : Json) : Option String :=
  (configDict bot.botPromptConfig).bind fun config =>
    (configDict bot.formattingConfig).map fun formatting =>
      promptText repr bot config formatting context history question

end Botman.Prompts
