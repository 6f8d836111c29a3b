import Botman.Library.JsonText
import Botman.Library.SplitText
import Botman.ChatService

/-!
`TranslationService`: a language model is asked for a JSON object with the
language of a message and its translation, and for the translation of a reply.

Models like to put such an object in a Markdown fence.  The fences are removed
from the whole reply before it is parsed, so that those within the texts of the
object are lost.
-/

namespace Botman.Translation

open Botman.Library.JsonText
open Botman.Library.PythonValue
open Botman.Library.SplitText
open Botman.ChatService

section Service

/-- The language model, asked with the selected model and a prompt, and
`json.loads`, absent where it raises. -/
structure TranslationEnv where
  ask : Json → String → LlmAnswer
  loads : String → Option Json

/-- The prompt of `detect_and_translate`. -/
def detectPrompt (repr : Json → String) (text : Json) : String :=
  "You are a translation engine. Detect the language of the following text and " ++
    "translate it to English. If it is already in English, return it exactly as is. " ++
    "Return ONLY a JSON object with keys 'language' and 'translated_text'.\n\n" ++
    "Text: " ++ str repr text

def startsWithError (response : String) : Bool :=
  "Error".toList.isPrefixOf response.toList

/-- `not (not response or response.startswith("Error"))`. -/
def isReply (response : String) : Bool :=
  response ≠ "" && !startsWithError response

def jsonFence : List Char := "```json".toList

def fence : List Char := "```".toList

/-- What is parsed of a response: it is stripped, and the fences are replaced by
nothing. -/
def cleaned (response : String) : String :=
  String.ofList (remove fence (remove jsonFence (strip response).toList))

/-- The response to a prompt, absent where the call raises or gives an error or
nothing. -/
def reply? (env : TranslationEnv) (selectedLlm : Json) (prompt : String) : Option String :=
  match env.ask selectedLlm prompt with
  | .returned (some response) _ => if isReply response then some response else none
  | _ => none

/-- The dictionary that a reply is parsed to, if it is one. -/
def decoded (env : TranslationEnv) (selectedLlm : Json) (prompt : String) : Option Dict :=
  (reply? env selectedLlm prompt).bind fun response =>
    match env.loads (cleaned response) with
    | some (.obj data) => some data
    | _ => none

/-- `detect_and_translate`, with the defaults for keys that are missing. -/
def detectAndTranslate (repr : Json → String) (env : TranslationEnv) (selectedLlm text : Json) :
    Json × Json :=
  match decoded env selectedLlm (detectPrompt repr text) with
  | some data => (getD data "language" (.str "English"), getD data "translated_text" text)
  | none => (.str "English", text)

def translatePrompt (text : Option String) (targetLanguage : String) : String :=
  "Translate the following text to " ++ targetLanguage ++ ". " ++
    "Maintain the original tone and formatting. " ++
    "Return ONLY the translated text.\n\n" ++ "Text: " ++ text.getD "None"

/-- `translate_response`, which gives the text back where there is no reply. -/
def translateResponse (env : TranslationEnv) (selectedLlm : Json) (text : Option String)
    (targetLanguage : String) : Option String :=
  if targetLanguage = "" ∨ isEnglish targetLanguage = true then text
  else
    match reply? env selectedLlm (translatePrompt text targetLanguage) with
    | some response => some (strip response)
    | none => text

end Service

section Writers

/-- A way to write the object: which of the two texts comes first, how a character of
a text is escaped, and what stands around the texts.  An escape starts with a
backslash, and a backtick stands for itself or is escaped. -/
structure JsonWriter where
  translatedFirst : Bool
  escape : Char → List Char
  opening : List Char
  middle : List Char
  closing : List Char
  escape_cases : ∀ c, escape c = [c] ∨ '\x60' ∉ escape c ∧ ∃ block, escape c = '\\' :: block
  opening_plain : '\x60' ∉ opening
  middle_plain : '\x60' ∉ middle
  closing_plain : '\x60' ∉ closing

/-- A text as it is written between its quotes. -/
def JsonWriter.write (writer : JsonWriter) (text : List Char) : List Char :=
  text.flatMap writer.escape

/-- The object whose first and second value are given. -/
def JsonWriter.pair (writer : JsonWriter) (first second : List Char) : List Char :=
  '{' :: (writer.opening ++ (writer.write first ++ '"' ::
    (writer.middle ++ (writer.write second ++ '"' :: (writer.closing ++ ['}'])))))

def JsonWriter.object (writer : JsonWriter) (language translated : List Char) : List Char :=
  if writer.translatedFirst then writer.pair translated language
  else writer.pair language translated

/-- The dictionary with the two texts, in the order in which they are written. -/
def JsonWriter.fields (writer : JsonWriter) (language translated : List Char) : Dict :=
  let languageField := ("language", Json.str (String.ofList language))
  let translatedField := ("translated_text", Json.str (String.ofList translated))
  if writer.translatedFirst then [translatedField, languageField]
  else [languageField, translatedField]

/-- `json.loads` inverts the writer, also with blanks around the object. -/
def Inverts (loads : String → Option Json) (writer : JsonWriter) : Prop :=
  ∀ language translated before after : List Char, before.all isBlank = true →
    after.all isBlank = true →
      loads (String.ofList (before ++ writer.object language translated ++ after)) =
        some (.obj (writer.fields language translated))

/-- The object as it is, or in a fence with blanks inside. -/
inductive Wrapping where
  | bare
  | fenced (before after : List Char)

def Wrapping.inner : Wrapping → List Char × List Char
  | .bare => ([], [])
  | .fenced before after => (before, after)

def Wrapping.wrap (wrapping : Wrapping) (object : List Char) : List Char :=
  match wrapping with
  | .bare => object
  | .fenced before after => jsonFence ++ (before ++ object ++ (after ++ fence))

variable {writer : JsonWriter} {pattern language translated rest : List Char}

theorem JsonWriter.shields (writer : JsonWriter) (hpattern : '\\' ∉ pattern) :
    Shields writer.escape '\x60' pattern := by
  intro c
  rcases writer.escape_cases c with hc | ⟨htick, block, hc⟩
  · exact Or.inl hc
  · exact Or.inr ⟨htick, '\\', block, hc, hpattern⟩

/-- The patterns that are removed: a backtick, and nothing that a text is framed
or escaped with. -/
structure IsFence (pattern : List Char) : Prop where
  starts : ∃ tail, pattern = '\x60' :: tail
  quote : '"' ∉ pattern
  backslash : '\\' ∉ pattern

theorem isFence_jsonFence : IsFence jsonFence :=
  ⟨⟨_, rfl⟩, by decide, by decide⟩

theorem isFence_fence : IsFence fence :=
  ⟨⟨_, rfl⟩, by decide, by decide⟩

theorem IsFence.remove_plain (h : IsFence pattern) {chunk : List Char} (hchunk : '\x60' ∉ chunk)
    (rest : List Char) : remove pattern (chunk ++ rest) = chunk ++ remove pattern rest := by
  obtain ⟨tail, rfl⟩ := h.starts
  exact remove_append_of_not_mem hchunk rest

/-- What is left of a text: the text itself, or a shorter one where the pattern occurs
in its writing. -/
def JsonWriter.Cuts (writer : JsonWriter) (pattern text kept : List Char) : Prop :=
  Cut (pattern <:+: writer.write text) text kept

theorem IsFence.exists_remove_write (h : IsFence pattern) (writer : JsonWriter)
    (text rest : List Char) :
    ∃ kept, remove pattern (writer.write text ++ '"' :: rest) =
        writer.write kept ++ '"' :: remove pattern rest ∧ writer.Cuts pattern text kept := by
  obtain ⟨tail, rfl⟩ := h.starts
  exact exists_remove_written (writer.shields h.backslash) h.quote rest text

theorem JsonWriter.pair_append (writer : JsonWriter) (first second rest : List Char) :
    writer.pair first second ++ rest =
      ('{' :: writer.opening) ++ (writer.write first ++ '"' ::
        (writer.middle ++ (writer.write second ++ '"' ::
          (writer.closing ++ ['}'] ++ rest)))) := by
  simp [JsonWriter.pair]

theorem IsFence.exists_remove_pair (h : IsFence pattern) (writer : JsonWriter)
    (first second rest : List Char) :
    ∃ keptFirst keptSecond,
      remove pattern (writer.pair first second ++ rest) =
          writer.pair keptFirst keptSecond ++ remove pattern rest ∧
        writer.Cuts pattern first keptFirst ∧ writer.Cuts pattern second keptSecond := by
  have hopening : '\x60' ∉ '{' :: writer.opening := by
    simpa using writer.opening_plain
  have hclosing : '\x60' ∉ writer.closing ++ ['}'] := by
    simpa using writer.closing_plain
  obtain ⟨keptSecond, hsecond, hcutSecond⟩ :=
    h.exists_remove_write writer second (writer.closing ++ ['}'] ++ rest)
  obtain ⟨keptFirst, hfirst, hcutFirst⟩ :=
    h.exists_remove_write writer first
      (writer.middle ++ (writer.write second ++ '"' :: (writer.closing ++ ['}'] ++ rest)))
  refine ⟨keptFirst, keptSecond, ?_, hcutFirst, hcutSecond⟩
  rw [writer.pair_append, writer.pair_append, h.remove_plain hopening, hfirst,
    h.remove_plain writer.middle_plain, hsecond, h.remove_plain hclosing]

theorem IsFence.exists_remove_object (h : IsFence pattern) (writer : JsonWriter)
    (language translated rest : List Char) :
    ∃ keptLanguage keptTranslated,
      remove pattern (writer.object language translated ++ rest) =
          writer.object keptLanguage keptTranslated ++ remove pattern rest ∧
        writer.Cuts pattern language keptLanguage ∧
        writer.Cuts pattern translated keptTranslated := by
  unfold JsonWriter.object
  split
  · obtain ⟨keptTranslated, keptLanguage, hremoved, htranslated, hlanguage⟩ :=
      h.exists_remove_pair writer translated language rest
    exact ⟨keptLanguage, keptTranslated, hremoved, hlanguage, htranslated⟩
  · exact h.exists_remove_pair writer language translated rest

theorem cuts_fences {text between kept : List Char} (hjson : writer.Cuts jsonFence text between)
    (hfence : writer.Cuts fence between kept) : writer.Cuts fence text kept := by
  constructor
  · intro hoccurs
    -- either kind of removal shortens the text, and neither makes it longer
    by_cases hoccurs' : jsonFence <:+: writer.write text
    · exact Nat.lt_of_le_of_lt hfence.length_le (hjson.shorter hoccurs')
    · rw [hjson.same hoccurs'] at hfence
      exact hfence.shorter hoccurs
  · intro hnot
    have hjsonNot : ¬ jsonFence <:+: writer.write text := by
      intro hoccurs
      exact hnot ((by decide : fence <+: jsonFence).isInfix.trans hoccurs)
    rw [hjson.same hjsonNot] at hfence
    exact hfence.same hnot

theorem not_tick_mem_of_blank {blanks : List Char} (h : blanks.all isBlank = true) :
    '\x60' ∉ blanks := by
  intro hmem
  exact absurd (List.all_eq_true.mp h _ hmem) (by decide)

end Writers

section Decoding

variable {writer : JsonWriter} {language translated : List Char}

def Wrapping.IsBlank (wrapping : Wrapping) : Prop :=
  wrapping.inner.1.all isBlank = true ∧ wrapping.inner.2.all isBlank = true

theorem exists_remove_fences (writer : JsonWriter) (language translated rest : List Char)
    {before : List Char} (hbefore : before.all isBlank = true) :
    ∃ keptLanguage keptTranslated,
      remove fence (remove jsonFence (before ++ (writer.object language translated ++ rest))) =
          before ++ (writer.object keptLanguage keptTranslated ++
            remove fence (remove jsonFence rest)) ∧
        writer.Cuts fence language keptLanguage ∧
        writer.Cuts fence translated keptTranslated := by
  have hplain := not_tick_mem_of_blank hbefore
  obtain ⟨language', translated', hjson, hlanguage, htranslated⟩ :=
    isFence_jsonFence.exists_remove_object writer language translated rest
  obtain ⟨keptLanguage, keptTranslated, hfence, hlanguage', htranslated'⟩ :=
    isFence_fence.exists_remove_object writer language' translated' (remove jsonFence rest)
  refine ⟨keptLanguage, keptTranslated, ?_, cuts_fences hlanguage hlanguage',
    cuts_fences htranslated htranslated'⟩
  rw [isFence_jsonFence.remove_plain hplain, hjson, isFence_fence.remove_plain hplain, hfence]

theorem exists_remove_wrapped (writer : JsonWriter) (language translated : List Char)
    {wrapping : Wrapping} (h : wrapping.IsBlank) :
    ∃ keptLanguage keptTranslated,
      remove fence (remove jsonFence (wrapping.wrap (writer.object language translated))) =
          wrapping.inner.1 ++ writer.object keptLanguage keptTranslated ++ wrapping.inner.2 ∧
        writer.Cuts fence language keptLanguage ∧
        writer.Cuts fence translated keptTranslated := by
  cases wrapping with
  | bare =>
      obtain ⟨keptLanguage, keptTranslated, hremoved, hcuts⟩ :=
        exists_remove_fences writer language translated [] h.1
      refine ⟨keptLanguage, keptTranslated, ?_, hcuts⟩
      simpa [Wrapping.wrap, Wrapping.inner, remove_nil] using hremoved
  | fenced before after =>
      obtain ⟨hbefore, hafter⟩ : before.all isBlank = true ∧ after.all isBlank = true := h
      obtain ⟨keptLanguage, keptTranslated, hremoved, hcuts⟩ :=
        exists_remove_fences writer language translated (after ++ fence) hbefore
      have hplain := not_tick_mem_of_blank hafter
      have hrest : remove fence (remove jsonFence (after ++ fence)) = after := by
        rw [isFence_jsonFence.remove_plain hplain,
          (by decide : remove jsonFence fence = fence), isFence_fence.remove_plain hplain,
          (by decide : remove fence fence = []), List.append_nil]
      refine ⟨keptLanguage, keptTranslated, ?_, hcuts⟩
      rw [hrest] at hremoved
      rw [Wrapping.wrap, remove_append_pattern (by decide), List.append_assoc, hremoved,
        List.append_assoc]
      rfl

theorem Wrapping.ends (wrapping : Wrapping) (writer : JsonWriter)
    (language translated : List Char) :
    (∃ first rest, wrapping.wrap (writer.object language translated) = first :: rest ∧
        isSpace first = false ∧ first ≠ 'E') ∧
      ∀ c, (wrapping.wrap (writer.object language translated)).getLast? = some c →
        isSpace c = false := by
  cases wrapping with
  | bare =>
      obtain ⟨rest, hrest⟩ : ∃ rest, writer.object language translated = '{' :: rest := by
        unfold JsonWriter.object
        split <;> exact ⟨_, rfl⟩
      refine ⟨⟨'{', rest, hrest, by decide, by decide⟩, ?_⟩
      have hlast : (writer.object language translated).getLast? = some '}' := by
        unfold JsonWriter.object
        split <;> simp [JsonWriter.pair, List.getLast?_cons, List.getLast?_append]
      intro c hc
      rw [← Option.some.inj (hlast.symm.trans hc)]
      decide
  | fenced before after =>
      refine ⟨⟨'\x60', _, rfl, by decide, by decide⟩, ?_⟩
      have hlast : (jsonFence ++ (before ++ writer.object language translated ++
          (after ++ fence))).getLast? = some '\x60' := by
        simp [fence, List.getLast?_append]
      intro c hc
      rw [← Option.some.inj (hlast.symm.trans hc)]
      decide

/-- A reply with the object of two texts, bare or in a fence, and spaces around
it. -/
structure RepliesWith (writer : JsonWriter) (wrapping : Wrapping)
    (language translated response : String) : Prop where
  blank : wrapping.IsBlank
  padded : ∃ before after, (∀ c ∈ before, isSpace c = true) ∧ (∀ c ∈ after, isSpace c = true) ∧
    response = String.ofList (before ++
      wrapping.wrap (writer.object language.toList translated.toList) ++ after)

theorem isReply_of_head {first : Char} {rest : List Char} (h : first ≠ 'E') :
    isReply (String.ofList (first :: rest)) = true := by
  have herror : startsWithError (String.ofList (first :: rest)) = false := by
    have hchars : (String.ofList (first :: rest)).toList = first :: rest := String.toList_ofList
    rw [startsWithError, hchars, ← Bool.not_eq_true, List.isPrefixOf_iff_prefix]
    exact fun hprefix => h (List.cons_prefix_cons.mp hprefix).1.symm
  have hempty : String.ofList (first :: rest) ≠ "" := by simp
  rw [isReply, herror, decide_eq_true hempty]
  rfl

theorem isReply_of_repliesWith {wrapping : Wrapping} {l t response : String}
    (h : RepliesWith writer wrapping l t response) : isReply response = true := by
  obtain ⟨before, after, hbefore, -, rfl⟩ := h.padded
  obtain ⟨first, rest, hwrap, -, hfirst⟩ := (wrapping.ends writer l.toList t.toList).1
  rw [hwrap, List.append_assoc, List.cons_append]
  cases before with
  | nil => exact isReply_of_head hfirst
  | cons c before =>
      refine isReply_of_head ?_
      rintro rfl
      exact absurd (hbefore 'E' List.mem_cons_self) (by decide)

theorem cleaned_of_repliesWith {wrapping : Wrapping} {l t response : String}
    (h : RepliesWith writer wrapping l t response) :
    cleaned response = String.ofList
      (remove fence (remove jsonFence (wrapping.wrap (writer.object l.toList t.toList)))) := by
  obtain ⟨before, after, hbefore, hafter, rfl⟩ := h.padded
  obtain ⟨⟨first, rest, hwrap, hfirst, -⟩, hlast⟩ := wrapping.ends writer l.toList t.toList
  rw [cleaned, strip_padded hbefore hafter hwrap hfirst hlast, String.toList_ofList]

theorem loads_cleaned {loads : String → Option Json} {wrapping : Wrapping}
    {l t response : String} (hloads : Inverts loads writer)
    (h : RepliesWith writer wrapping l t response) :
    ∃ keptLanguage keptTranslated,
      loads (cleaned response) = some (.obj (writer.fields keptLanguage keptTranslated)) ∧
        writer.Cuts fence l.toList keptLanguage ∧ writer.Cuts fence t.toList keptTranslated := by
  obtain ⟨keptLanguage, keptTranslated, hremoved, hcuts⟩ :=
    exists_remove_wrapped writer l.toList t.toList h.blank
  refine ⟨keptLanguage, keptTranslated, ?_, hcuts⟩
  rw [cleaned_of_repliesWith h, hremoved]
  exact hloads keptLanguage keptTranslated _ _ h.blank.1 h.blank.2

/-- The reply is decoded to its two texts exactly where no fence occurs in their
writing. -/
theorem detectAndTranslate_decodes_iff (repr : Json → String) {env : TranslationEnv}
    {selectedLlm text : Json} {wrapping : Wrapping} {l t response : String}
    {usage : Option Usage} (hloads : Inverts env.loads writer)
    (hresponse : RepliesWith writer wrapping l t response)
    (hask : env.ask selectedLlm (detectPrompt repr text) = .returned (some response) usage) :
    detectAndTranslate repr env selectedLlm text = (.str l, .str t) ↔
      ¬ fence <:+: writer.write l.toList ∧ ¬ fence <:+: writer.write t.toList := by
  obtain ⟨keptLanguage, keptTranslated, hparsed, hlanguage, htranslated⟩ :=
    loads_cleaned hloads hresponse
  have hresult : detectAndTranslate repr env selectedLlm text =
      (.str (String.ofList keptLanguage), .str (String.ofList keptTranslated)) := by
    simp only [detectAndTranslate, decoded, reply?, hask, isReply_of_repliesWith hresponse,
      if_true, Option.bind_some, hparsed]
    unfold JsonWriter.fields
    dsimp only
    split <;> rfl
  have htext : ∀ (kept : List Char) (s : String), String.ofList kept = s ↔ kept = s.toList := by
    intro kept s
    rw [← String.toList_inj, String.toList_ofList]
  rw [hresult, Prod.mk.injEq, Json.str.injEq, Json.str.injEq, htext, htext]
  exact and_congr hlanguage.eq_iff htranslated.eq_iff

end Decoding

section Encoder

/-- The code units of a text. -/
def textUnits (text : List Char) : List Nat :=
  text.flatMap fun c => utf16 c.toNat

theorem textUnits_lt (text : List Char) : ∀ u ∈ textUnits text, u < 0x10000 := by
  intro u hu
  obtain ⟨c, -, hc⟩ := List.mem_flatMap.mp hu
  have hbound : c.toNat < 0x110000 := by
    have hvalid : c.toNat < 0xD800 ∨ 0xDFFF < c.toNat ∧ c.toNat < 0x110000 := c.valid
    omega
  exact utf16_lt hbound u hc

theorem decodeUnits_textUnits (text : List Char) : decodeUnits (textUnits text) = text := by
  induction text with
  | nil => rfl
  | cons c text ih => rw [textUnits, List.flatMap_cons, decodeUnits_utf16, ← textUnits, ih]

def textField : List Nat × JsonValue → Option (String × Json)
  | (key, .str units) =>
      some (String.ofList (decodeUnits key), .str (String.ofList (decodeUnits units)))
  | _ => none

/-- `json.loads`, for objects whose values are texts. -/
def loadsTexts (text : String) : Option Json :=
  match parse text.toList with
  | some (.obj fields) => (fields.mapM textField).map .obj
  | _ => none

theorem ne_tick_of_hexValue {c : Char} {d : Nat} (h : hexValue c = some d) : '\x60' ≠ c := by
  rintro rfl
  cases h

theorem written_cases {u : Nat} {text : List Char} (h : Written u text) :
    (text = [Char.ofNat u] ∧ u ≤ 0x7E) ∨
      '\x60' ∉ text ∧ ∃ block, text = '\\' :: block := by
  cases h with
  | short e hne hvalue =>
      refine Or.inr ⟨?_, _, rfl⟩
      have htick : '\x60' ≠ e := by
        rintro rfl
        cases hvalue
      simp [htick]
  | plain c hquote hescape hvisible hvalue hbound =>
      refine Or.inl ⟨?_, hbound⟩
      rw [← hvalue, Char.ofNat_toNat]
  | unicode a b c d hvalue hquote =>
      refine Or.inr ⟨?_, _, rfl⟩
      unfold hexFour at hvalue
      split at hvalue
      · rename_i ha hb hc hd
        simp [ne_tick_of_hexValue ha, ne_tick_of_hexValue hb, ne_tick_of_hexValue hc,
          ne_tick_of_hexValue hd]
      · cases hvalue

theorem escapeUnit_cases {u : Nat} (hu : u < 0x10000) :
    (escapeUnit u = [Char.ofNat u] ∧ u ≤ 0x7E) ∨
      '\x60' ∉ escapeUnit u ∧ ∃ block, escapeUnit u = '\\' :: block :=
  written_cases (written_escapeUnit hu)

theorem escapeUnits_utf16_cases (c : Char) :
    escapeUnits (utf16 c.toNat) = [c] ∨
      '\x60' ∉ escapeUnits (utf16 c.toNat) ∧
        ∃ block, escapeUnits (utf16 c.toNat) = '\\' :: block := by
  have hvalid : c.toNat < 0xD800 ∨ 0xDFFF < c.toNat ∧ c.toNat < 0x110000 := c.valid
  by_cases hplane : c.toNat < 0x10000
  · have hone : escapeUnits (utf16 c.toNat) = escapeUnit c.toNat := by
      simp [escapeUnits, utf16, hplane]
    rw [hone]
    rcases escapeUnit_cases hplane with ⟨hplain, -⟩ | hescaped
    · rw [hplain, Char.ofNat_toNat]
      exact Or.inl rfl
    · exact Or.inr hescaped
  · -- a pair of surrogates, neither of which is a character of ASCII
    have htwo : escapeUnits (utf16 c.toNat) =
        escapeUnit (0xD800 + (c.toNat - 0x10000) / 0x400) ++
          escapeUnit (0xDC00 + (c.toNat - 0x10000) % 0x400) := by
      rw [utf16, if_neg hplane, escapeUnits, List.flatMap_cons, List.flatMap_singleton]
    rw [htwo]
    rcases escapeUnit_cases (u := 0xD800 + (c.toNat - 0x10000) / 0x400) (by omega) with
      ⟨-, hhigh⟩ | ⟨hhigh, block, hblock⟩
    · omega
    · rcases escapeUnit_cases (u := 0xDC00 + (c.toNat - 0x10000) % 0x400) (by omega) with
        ⟨-, hlow⟩ | ⟨hlow, -⟩
      · omega
      · refine Or.inr ⟨?_, _, by rw [hblock, List.cons_append]⟩
        rw [List.mem_append, not_or]
        exact ⟨hhigh, hlow⟩

/-- The keys of the object in the order in which they are written. -/
def orderedKeys (translatedFirst : Bool) : String × String :=
  if translatedFirst then ("translated_text", "language") else ("language", "translated_text")

/-- `json.dumps`, which escapes all that is not ASCII. -/
def asciiWriter (translatedFirst : Bool) : JsonWriter where
  translatedFirst := translatedFirst
  escape := fun c => escapeUnits (utf16 c.toNat)
  opening := '"' :: (orderedKeys translatedFirst).1.toList ++ "\": \"".toList
  middle := ", \"".toList ++ (orderedKeys translatedFirst).2.toList ++ "\": \"".toList
  closing := []
  escape_cases := escapeUnits_utf16_cases
  opening_plain := by cases translatedFirst <;> decide
  middle_plain := by cases translatedFirst <;> decide
  closing_plain := by decide

variable (translatedFirst : Bool)

theorem asciiWriter_write (text : List Char) :
    (asciiWriter translatedFirst).write text = escapeUnits (textUnits text) := by
  simp only [JsonWriter.write, asciiWriter, escapeUnits, textUnits, List.flatMap_assoc]

theorem asciiWriter_pair (first second rest : List Char) :
    (asciiWriter translatedFirst).pair first second ++ rest = '{' :: '"' ::
      (escapeUnits (textUnits (orderedKeys translatedFirst).1.toList) ++ '"' :: ':' :: ' ' :: '"' ::
        (escapeUnits (textUnits first) ++ '"' :: ',' :: ' ' :: '"' ::
          (escapeUnits (textUnits (orderedKeys translatedFirst).2.toList) ++
            '"' :: ':' :: ' ' :: '"' ::
              (escapeUnits (textUnits second) ++ '"' :: '}' :: rest)))) := by
  have hfirst : escapeUnits (textUnits (orderedKeys translatedFirst).1.toList) =
      (orderedKeys translatedFirst).1.toList := by cases translatedFirst <;> decide
  have hsecond : escapeUnits (textUnits (orderedKeys translatedFirst).2.toList) =
      (orderedKeys translatedFirst).2.toList := by cases translatedFirst <;> decide
  rw [JsonWriter.pair, asciiWriter_write, asciiWriter_write, hfirst, hsecond]
  simp [asciiWriter]

theorem parse_pair (first second : List Char) {before after : List Char}
    (hbefore : before.all isBlank = true) (hafter : after.all isBlank = true) :
    parse (before ++ (asciiWriter translatedFirst).pair first second ++ after) =
      some (.obj [(textUnits (orderedKeys translatedFirst).1.toList, .str (textUnits first)),
        (textUnits (orderedKeys translatedFirst).2.toList, .str (textUnits second))]) := by
  have hvalue : ∀ fuel, value (fuel + 4)
      (before ++ ((asciiWriter translatedFirst).pair first second ++ after)) =
        some (.obj [(textUnits (orderedKeys translatedFirst).1.toList, .str (textUnits first)),
          (textUnits (orderedKeys translatedFirst).2.toList, .str (textUnits second))], after) := by
    intro fuel
    rw [value_append hbefore, asciiWriter_pair, value_object,
      members_field (textUnits_lt _) (textUnits_lt _), skip_cons (by decide)]
    simp only [members_space]
    rw [members_field (textUnits_lt _) (textUnits_lt _), skip_cons (by decide)]
    rfl
  have hlength : ∃ fuel, (before ++ (asciiWriter translatedFirst).pair first second ++
      after).length + 1 = fuel + 4 := by
    refine ⟨(before ++ (asciiWriter translatedFirst).pair first second ++ after).length - 3, ?_⟩
    rw [List.append_assoc, asciiWriter_pair]
    simp only [List.length_append, List.length_cons]
    omega
  obtain ⟨fuel, hfuel⟩ := hlength
  have hskip : skip after = [] := by
    have h := skip_append hafter []
    rwa [List.append_nil] at h
  rw [parse, hfuel, List.append_assoc, hvalue]
  simp [hskip]

theorem inverts_loadsTexts : Inverts loadsTexts (asciiWriter translatedFirst) := by
  intro language translated before after hbefore hafter
  cases translatedFirst with
  | true =>
      have hobject : (asciiWriter true).object language translated =
          (asciiWriter true).pair translated language := rfl
      rw [loadsTexts, String.toList_ofList, hobject,
        parse_pair true translated language hbefore hafter]
      simp [textField, decodeUnits_textUnits, JsonWriter.fields, asciiWriter, orderedKeys]
  | false =>
      have hobject : (asciiWriter false).object language translated =
          (asciiWriter false).pair language translated := rfl
      rw [loadsTexts, String.toList_ofList, hobject,
        parse_pair false language translated hbefore hafter]
      simp [textField, decodeUnits_textUnits, JsonWriter.fields, asciiWriter, orderedKeys]

end Encoder

section Replies

def replyingEnv (response : String) : TranslationEnv where
  ask := fun _ _ => .returned (some response) none
  loads := loadsTexts

/-- A reply in a fence, with a line break before it. -/
def fencedReply (translatedFirst : Bool) (translated : String) : String :=
  String.ofList (['\n'] ++
    (Wrapping.fenced ['\n'] ['\n']).wrap
      ((asciiWriter translatedFirst).object "French".toList translated.toList) ++ [])

theorem repliesWith_fencedReply (translatedFirst : Bool) (translated : String) :
    RepliesWith (asciiWriter translatedFirst) (.fenced ['\n'] ['\n']) "French" translated
      (fencedReply translatedFirst translated) := by
  refine ⟨⟨by decide, by decide⟩, ['\n'], [], ?_, nofun, rfl⟩
  intro c hc
  rw [List.mem_singleton.mp hc]
  decide

theorem hello_decoded :
    detectAndTranslate (fun _ => "") (replyingEnv (fencedReply true "Hello")) (.str "gemini")
      (.str "Bonjour") = (.str "French", .str "Hello") :=
  (detectAndTranslate_decodes_iff (fun _ => "") (inverts_loadsTexts true)
    (repliesWith_fencedReply true "Hello") rfl).mpr ⟨by decide, by decide⟩

/-- The fences around a command are lost from a translation. -/
theorem code_stripped :
    detectAndTranslate (fun _ => "") (replyingEnv (fencedReply false "Run ```ls``` here"))
      (.str "gemini") (.str "Lance ```ls``` ici") = (.str "French", .str "Run ls here") := by
  have hreply : isReply (fencedReply false "Run ```ls``` here") = true :=
    isReply_of_repliesWith (repliesWith_fencedReply false _)
  have hremoved : remove fence (remove jsonFence ((Wrapping.fenced ['\n'] ['\n']).wrap
      ((asciiWriter false).object "French".toList "Run ```ls``` here".toList))) =
        ['\n'] ++ (asciiWriter false).object "French".toList "Run ls here".toList ++ ['\n'] := by
    decide +kernel
  have hcleaned := cleaned_of_repliesWith (repliesWith_fencedReply false "Run ```ls``` here")
  rw [hremoved] at hcleaned
  have hparsed := inverts_loadsTexts false "French".toList "Run ls here".toList ['\n'] ['\n']
    (by decide) (by decide)
  have hfields : (asciiWriter false).fields "French".toList "Run ls here".toList =
      [("language", .str "French"), ("translated_text", .str "Run ls here")] := by
    simp [JsonWriter.fields, asciiWriter]
  rw [← hcleaned, hfields] at hparsed
  simp only [detectAndTranslate, decoded, reply?, replyingEnv, hreply, if_true, Option.bind_some,
    hparsed]
  rfl

end Replies

end Botman.Translation
