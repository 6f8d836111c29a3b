import Botman.LlmCalls
import Botman.Translation

/-!
The translation service in a chat.

`process_chat_message` takes the lower case of the detected language outside
any handler, before the visitor's message is stored.  The service tells a
failed call of a language model from a translation by the first word of the
text.
-/

namespace Botman.TranslatedChat

open Botman.Library.KeyedTable
open Botman.Library.PythonValue
open Botman.DataModel
open Botman.ChatbotSettings
open Botman.ChatService
open Botman.ChatEffects
open Botman.ChatPrompt
open Botman.LlmCalls
open Botman.Translation

section Languages

/-- A chat environment whose translations come from the service. -/
def translating (repr : Json → String) (service : TranslationEnv) (env : ChatEnv) : ChatEnv :=
  { env with
    detect := detectAndTranslate repr service
    translate := translateResponse service }

/-- The two keys have texts, where they are there. -/
def HasTexts (data : Dict) : Prop :=
  ∀ key ∈ ["language", "translated_text"], ∀ value, data.lookup key = some value →
    ∃ s, value = .str s

variable {repr : Json → String} {service : TranslationEnv} {env : ChatEnv} {db : Database}
  {call : ChatCall} {text : String}

theorem getD_isText_iff (data : Dict) (key default : String) :
    (∃ s, getD data key (.str default) = .str s) ↔
      ∀ value, data.lookup key = some value → ∃ s, value = .str s := by
  unfold getD
  cases data.lookup key with
  | none => simp
  | some value => simp

theorem hasTexts_iff (data : Dict) (language translated : String) :
    HasTexts data ↔ (∃ s, getD data "language" (.str language) = .str s) ∧
      ∃ s, getD data "translated_text" (.str translated) = .str s := by
  rw [getD_isText_iff, getD_isText_iff]
  simp [HasTexts]

theorem detectAndTranslate_texts_iff (selectedLlm : Json) :
    (∃ language translated, detectAndTranslate repr service selectedLlm (.str text) =
        (.str language, .str translated)) ↔
      ∀ data, decoded service selectedLlm (detectPrompt repr (.str text)) = some data →
        HasTexts data := by
  unfold detectAndTranslate
  cases decoded service selectedLlm (detectPrompt repr (.str text)) with
  | none => simp
  | some data =>
      simp only [Option.some.injEq, forall_eq', hasTexts_iff data "English" text, Prod.mk.injEq,
        exists_and_left, exists_and_right]

/-- The language is handled, and the message of the visitor is stored in every
conversation that can be opened. -/
structure Survives (repr : Json → String) (env : ChatEnv) (db : Database) (call : ChatCall)
    (text : String) : Prop where
  texts : ∃ language translated,
    env.detect (chatBot call.bot call.previewMode).selectedLlm (.str text) =
      (.str language, .str translated)
  handled : ∃ language processing, prepare env call = .ok (language, processing)
  stored : ∀ c, (openConversation env db call).2 = .ok c →
    ∃ m ∈ (processChatMessage repr env db call).1.messages.rows, m ∉ db.messages.rows ∧
      m.conversation = c.id ∧ m.sender = .user ∧ m.content = text

theorem prepare_of_detect {language : String} {translated : Json}
    (hmessage : call.message = .str text)
    (h : env.detect (chatBot call.bot call.previewMode).selectedLlm (.str text) =
      (.str language, translated)) :
    prepare env call =
      .ok (language, if isEnglish language then .str text else translated) := by
  simp [prepare, hmessage, len, h]

theorem mem_messages_of_question {q : Question} (h : question? repr env db call = some q) :
    db.messages.created (q.row env) ∈ (processChatMessage repr env db call).1.messages.rows := by
  have hwrites : ∀ w ∈ (respondTo repr env call q).writes, IsIn q.conversation.id w :=
    isIn_of_mem_respond repr env call
  obtain ⟨-, -, new, hnew, -⟩ := foldl_applyWrite_spec _ hwrites (q.stored env)
  rw [processChatMessage_of_question repr h, hnew, messages_of_question repr h]
  exact List.mem_append_left _ (List.mem_append_right _ (List.mem_singleton_self _))

theorem stored_of_prepare {language : String} {processing : Json}
    (hmessage : call.message = .str text)
    (hprepare : prepare env call = .ok (language, processing)) {c : Conversation}
    (hopen : (openConversation env db call).2 = .ok c) :
    ∃ m ∈ (processChatMessage repr env db call).1.messages.rows, m ∉ db.messages.rows ∧
      m.conversation = c.id ∧ m.sender = .user ∧ m.content = text := by
  have hquestion : question? repr env db call =
      some ⟨language, processing, (openConversation env db call).1, c, text⟩ := by
    unfold question?
    rw [hprepare, ← Prod.mk.eta (p := openConversation env db call), hopen, hmessage]
    rfl
  refine ⟨_, mem_messages_of_question hquestion, ?_, rfl, rfl, rfl⟩
  intro hmem
  exact Nat.lt_irrefl _ (db.messages.fresh _ hmem)

theorem processChatMessage_of_no_language (repr : Json → String)
    (hmessage : call.message = .str text)
    (h : ∀ language,
      (env.detect (chatBot call.bot call.previewMode).selectedLlm (.str text)).1 ≠ .str language) :
    processChatMessage repr env db call = (db, .raised .attributeError) := by
  have hprepare : prepare env call = .error .attributeError := by
    simp only [prepare, hmessage, len, Option.isNone_some, Bool.false_eq_true, and_false, if_false]
    split
    · rename_i hdetect
      exact absurd (congrArg Prod.fst hdetect) (h _)
    · rfl
  simp only [processChatMessage, hprepare]

/-- Whatever the model replies, the chat survives exactly where the reply is no
dictionary, or one whose two fields are texts or missing. -/
theorem survives_iff (repr : Json → String) (service : TranslationEnv) (env : ChatEnv)
    (db : Database) (hmessage : call.message = .str text) :
    Survives repr (translating repr service env) db call text ↔
      ∀ data, decoded service (chatBot call.bot call.previewMode).selectedLlm
        (detectPrompt repr (.str text)) = some data → HasTexts data := by
  rw [← detectAndTranslate_texts_iff]
  constructor
  · intro h
    exact h.texts
  · rintro ⟨language, translated, hdetect⟩
    have hprepare : prepare (translating repr service env) call = .ok (language, _) :=
      prepare_of_detect hmessage hdetect
    exact ⟨⟨language, translated, hdetect⟩, ⟨language, _, hprepare⟩,
      fun c hopen => stored_of_prepare hmessage hprepare hopen⟩

def languageService (response : String) (language : Json) : TranslationEnv where
  ask := fun _ _ => .returned (some response) none
  loads := fun text => if text = response then some (.obj [("language", language)]) else none

theorem french_survives :
    Survives (fun _ => "")
      (translating (fun _ => "") (languageService "\x7b\"language\": \"French\"\x7d" (.str "French"))
        plainEnv) supportDb (plainCall "visitor" false) "Hi" := by
  refine (survives_iff _ _ _ _ rfl).mpr ?_
  intro data hdata
  have hdata' : [("language", Json.str "French")] = data := Option.some.inj hdata
  rw [← hdata', hasTexts_iff _ "" ""]
  exact ⟨⟨_, rfl⟩, ⟨_, rfl⟩⟩

/-- A language that is null ends the call before the message is stored. -/
theorem nullLanguage_raises :
    let env := translating (fun _ => "") (languageService "\x7b\"language\": null\x7d" .null) plainEnv
    processChatMessage (fun _ => "") env supportDb (plainCall "visitor" false) =
        (supportDb, .raised .attributeError) ∧
      ¬ Survives (fun _ => "") env supportDb (plainCall "visitor" false) "Hi" := by
  intro env
  have hdetect : ∀ selectedLlm, (env.detect selectedLlm (.str "Hi")).1 = .null := by
    intro selectedLlm
    rfl
  have hno : ∀ selectedLlm language, (env.detect selectedLlm (.str "Hi")).1 ≠ .str language := by
    intro selectedLlm language h
    cases (hdetect selectedLlm).symm.trans h
  refine ⟨processChatMessage_of_no_language _ rfl (hno _), ?_⟩
  intro h
  obtain ⟨language, translated, htexts⟩ := h.texts
  exact hno _ language (congrArg Prod.fst htexts)

end Languages

section Replies

/-- The service asks the selected model. -/
def askModel (keys : ApiKeys) (requests : String → Nat → Outcome) (selectedLlm : Json)
    (prompt : String) : Returned :=
  if isGemini selectedLlm then callGemini keys (requests prompt)
  else callOpenai keys (requests prompt) 0

def modelService (keys : ApiKeys) (requests : String → Nat → Outcome)
    (loads : String → Option Json) : TranslationEnv where
  ask := fun selectedLlm prompt => (askModel keys requests selectedLlm prompt).result
  loads := loads

/-- The text that a call returns, absent where it failed or returned nothing. -/
def returnedText : Returned → Option String
  | .answer _ text _ => text.filter (· ≠ "")
  | .apology _ => some apologyText
  | .errorText _ => none

variable {keys : ApiKeys} {requests : Nat → Outcome} {message : String}

theorem startsWithError_append {head : String} (h : startsWithError head = true) (tail : String) :
    startsWithError (head ++ tail) = true := by
  rw [startsWithError, List.isPrefixOf_iff_prefix] at h ⊢
  rw [String.toList_append]
  exact h.trans (List.prefix_append _ _)

theorem startsWithError_of_callOpenai {n : Nat}
    (h : callOpenai keys requests n = .errorText message) :
    startsWithError message = true := by
  have hcalling : startsWithError "Error calling OpenAI: " = true := by decide
  unfold callOpenai at h
  split at h
  · cases h
    decide
  · split at h
    · split at h
      · cases h
        exact startsWithError_append hcalling _
      · cases h
        exact startsWithError_append hcalling _
      · cases h
    · cases h
      exact startsWithError_append hcalling _
    · cases h
      exact startsWithError_append hcalling _

theorem startsWithError_of_callGemini (h : callGemini keys requests = .errorText message) :
    startsWithError message = true := by
  have hcalling : startsWithError "Error calling Gemini: " = true := by decide
  unfold callGemini at h
  dsimp only at h
  split at h
  · cases h
    decide
  · split at h
    · split at h
      · cases h
        exact startsWithError_append hcalling _
      · cases h
      · cases h
    · split at h
      · rcases callFlashLite_cases keys requests (executeCall requests 0 + 1) with
          hopenai | ⟨_, _, _, -, -, hanswer⟩
        · exact startsWithError_of_callOpenai (hopenai.symm.trans h)
        · cases hanswer.symm.trans h
      · cases h
        exact startsWithError_append hcalling _
    · cases h
      exact startsWithError_append hcalling _

theorem startsWithError_of_askModel {requests : String → Nat → Outcome} {selectedLlm : Json}
    {prompt : String} (h : askModel keys requests selectedLlm prompt = .errorText message) :
    startsWithError message = true := by
  unfold askModel at h
  split at h
  · exact startsWithError_of_callGemini h
  · exact startsWithError_of_callOpenai h

theorem reply?_modelService (keys : ApiKeys) (requests : String → Nat → Outcome)
    (loads : String → Option Json) (selectedLlm : Json) (prompt : String) :
    reply? (modelService keys requests loads) selectedLlm prompt =
      (returnedText (askModel keys requests selectedLlm prompt)).filter
        fun text => !startsWithError text := by
  -- a reply is taken for an error by its text alone
  unfold reply? modelService
  dsimp only
  cases hasked : askModel keys requests selectedLlm prompt with
  | answer request text usage =>
      cases text with
      | none => rfl
      | some text =>
          by_cases hempty : text = ""
          · simp [Returned.result, returnedText, isReply, hempty, Option.filter]
          · simp [Returned.result, returnedText, isReply, hempty, Option.filter]
  | apology usage => rfl
  | errorText text =>
      -- every error text of the calls has the word that the service looks for
      have herror := startsWithError_of_askModel hasked
      simp [Returned.result, returnedText, isReply, herror]

/-- For every language but English, a text that a call returns is the translation,
stripped, unless it starts with the word of an error (or no language is named); the
untranslated text takes the place of what is not returned. -/
theorem translateResponse_faithful_iff (keys : ApiKeys) (requests : String → Nat → Outcome)
    (loads : String → Option Json) (selectedLlm : Json) (text : Option String)
    {language : String} (hlanguage : isEnglish language = false) :
    let returned := returnedText (askModel keys requests selectedLlm (translatePrompt text language))
    translateResponse (modelService keys requests loads) selectedLlm text language =
        returned.elim text (fun r => some (strip r)) ↔
      ∀ r, returned = some r → language = "" ∨ startsWithError r = true → some (strip r) = text := by
  intro returned
  have hreply : reply? (modelService keys requests loads) selectedLlm
      (translatePrompt text language) = returned.filter fun r => !startsWithError r :=
    reply?_modelService keys requests loads selectedLlm _
  simp only [translateResponse, hlanguage, Bool.false_eq_true, or_false, hreply]
  cases returned with
  | none => simp
  | some r =>
      simp only [Option.elim_some, Option.some.injEq, forall_eq']
      by_cases hnamed : language = ""
      · simp only [hnamed, if_true, true_or, true_imp_iff]
        exact eq_comm
      · simp only [hnamed, if_false, false_or]
        cases herror : startsWithError r with
        | false => simp [Option.filter, herror]
        | true =>
            simp only [Option.filter, herror, Bool.not_true, Bool.false_eq_true, if_false,
              true_imp_iff]
            exact eq_comm

def answering (text : String) : String → Nat → Outcome :=
  fun _ _ => .success { parts := .ok [some text], usage := some ⟨some 3, some 2, some 5⟩ }

theorem bonjour_translated :
    translateResponse (modelService workingKeys (answering " Bonjour\n") fun _ => none)
      (.str "gemini") (some "Hello") "French" = some "Bonjour" := by
  refine (translateResponse_faithful_iff workingKeys (answering " Bonjour\n") (fun _ => none)
    (.str "gemini") (some "Hello") (by decide : isEnglish "French" = false)).mpr ?_
  intro r hr herror
  have hr' : " Bonjour\n" = r := Option.some.inj hr
  rw [← hr'] at herror
  exact absurd herror (by decide)

/-- A good translation that starts with the word of an error is given up. -/
theorem errorPage_untranslated :
    askModel workingKeys (answering "Error 404 significa que no existe.") (.str "gemini")
        (translatePrompt (some "Error 404 means that it is missing.") "Spanish") =
      .answer 0 (some "Error 404 significa que no existe.") ⟨some 3, some 2, some 5⟩ ∧
    translateResponse
        (modelService workingKeys (answering "Error 404 significa que no existe.") fun _ => none)
        (.str "gemini") (some "Error 404 means that it is missing.") "Spanish" =
      some "Error 404 means that it is missing." := by
  constructor
  · rfl
  · rfl

end Replies

end Botman.TranslatedChat
