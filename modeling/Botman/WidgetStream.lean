import Botman.ChatService
import Botman.Library.CutText
import Botman.Library.JsonText
import Mathlib.Data.List.Chain

/-!
A streamed reply on its way to the deployed widget: the events that
`stream_response_generator` yields, and `handleStreamingResponse`, which
splits every network read into lines on its own.

Every character of the events is ASCII, so that the decoder turns each byte
into a character by itself; reads are lists of characters.
-/

namespace Botman.WidgetStream

open Botman.Library.PythonValue
open Botman.Library.JsonText
open Botman.Library.CutText
open Botman.ChatService

/-- A code point of a Python string, which may be a lone surrogate. -/
abbrev CodePoint := Fin 0x110000

/-- The text that the browser holds for a Python string. -/
def jsText (text : List CodePoint) : List Nat :=
  text.flatMap fun n => utf16 n.val

/-- An event of the server, in code points. -/
inductive Event where
  | content (text : List CodePoint)
  | error (message : List CodePoint)
  deriving DecidableEq

def Event.contentText : Event → List CodePoint
  | .content text => text
  | .error _ => []

/-- The two keys of the objects that the generator writes. -/
inductive Key where
  | content
  | message
  deriving DecidableEq

def Key.chars : Key → List Char
  | .content => ['c', 'o', 'n', 't', 'e', 'n', 't']
  | .message => ['m', 'e', 's', 's', 'a', 'g', 'e']

def Key.units (key : Key) : List Nat :=
  key.chars.map Char.toNat

/-- `json.dumps({key: text})`. -/
def dumps (key : Key) (text : List CodePoint) : List Char :=
  '{' :: '"' :: (key.chars ++ '"' :: ':' :: ' ' :: '"' ::
    (text.flatMap (fun n => escapeCodePoint n.val) ++ ['"', '}']))

def dataMark : List Char := ['d', 'a', 't', 'a', ':', ' ']

/-- The lines that an event is written in. -/
inductive WireLine where
  | data (key : Key) (text : List CodePoint)
  | errorName
  | blank
  deriving DecidableEq

def WireLine.chars : WireLine → List Char
  | .data key text => dataMark ++ dumps key text
  | .errorName => ['e', 'v', 'e', 'n', 't', ':', ' ', 'e', 'r', 'r', 'o', 'r']
  | .blank => []

def Event.lines : Event → List WireLine
  | .content text => [.data .content text, .blank]
  | .error message => [.errorName, .data .message message, .blank]

def wireLines (events : List Event) : List WireLine :=
  events.flatMap Event.lines

/-- The stream as it is sent. -/
def wire (events : List Event) : List Char :=
  (wireLines events).flatMap fun line => line.chars ++ ['\n']

/-- Conversions of values other than strings, which no event needs. -/
structure JsServices where
  truthyNumber : List Char → Bool
  toText : JsonValue → List Nat

def isTrimmed (c : Char) : Bool :=
  (9 ≤ c.toNat && c.toNat ≤ 13) || c.toNat = 32 || c.toNat = 0xA0 || c.toNat = 0x1680 ||
    (0x2000 ≤ c.toNat && c.toNat ≤ 0x200A) || c.toNat = 0x2028 || c.toNat = 0x2029 ||
    c.toNat = 0x202F || c.toNat = 0x205F || c.toNat = 0x3000 || c.toNat = 0xFEFF

/-- `String.prototype.trim`. -/
def trim (s : List Char) : List Char :=
  ((s.dropWhile isTrimmed).reverse.dropWhile isTrimmed).reverse

/-- A property of a parsed value; of several members the last one counts. -/
def property (name : List Nat) : JsonValue → Option JsonValue
  | .obj fields => fields.reverse.lookup name
  | _ => none

/-- The truth value of a property. -/
def isTruthy (js : JsServices) : Option JsonValue → Bool
  | none => false
  | some .null => false
  | some (.bool b) => b
  | some (.num text) => js.truthyNumber text
  | some (.str units) => !units.isEmpty
  | some (.arr _) => true
  | some (.obj _) => true

/-- What `+=` appends for a property. -/
def appended (js : JsServices) : Option JsonValue → List Nat
  | none => []
  | some (.str units) => units
  | some other => js.toText other

def chunkName : List Nat := ['c', 'h', 'u', 'n', 'k'].map Char.toNat

/-- The body of the `try`: `data.content || data.chunk || ""`.  A text that
does not parse, and null, which has no properties, are only warned about. -/
def contentOf (js : JsServices) (dataStr : List Char) : List Nat :=
  match parse dataStr with
  | none => []
  | some data =>
      let content := property Key.content.units data
      let chunk := property chunkName data
      if isTruthy js content then appended js content
      else if isTruthy js chunk then appended js chunk
      else []

/-- The text after the mark of a data line. -/
def dataStr (line : List Char) : Option (List Char) :=
  if dataMark.isPrefixOf (trim line) then some ((trim line).drop 6) else none

def doneMark : List Char := ['[', 'D', 'O', 'N', 'E', ']']

/-- The loop over the lines of one read, which `[DONE]` ends. -/
def handleLines (js : JsServices) : List (List Char) → List Nat
  | [] => []
  | line :: rest =>
      match dataStr line with
      | none => handleLines js rest
      | some s =>
          if s = doneMark then [] else contentOf js s ++ handleLines js rest

/-- `handleStreamingResponse`: `fullText` after the last read. -/
def handleStreamingResponse (js : JsServices) (reads : List (List Char)) : List Nat :=
  reads.flatMap fun chunk => handleLines js (splitChars '\n' chunk)

section Wire

theorem jsText_lt (text : List CodePoint) : ∀ u ∈ jsText text, u < 0x10000 := by
  intro u hu
  obtain ⟨n, -, hn⟩ := List.mem_flatMap.mp hu
  exact utf16_lt n.isLt u hn

theorem keyUnits_lt (key : Key) : ∀ u ∈ key.units, u < 0x10000 := by
  cases key <;> decide

theorem escapeUnits_keyUnits (key : Key) : escapeUnits key.units = key.chars := by
  cases key <;> decide

theorem dumps_eq (key : Key) (text : List CodePoint) :
    dumps key text = fieldText key.units (jsText text) := by
  rw [dumps, fieldText, escapeUnits_keyUnits]
  simp only [escapeCodePoint_eq, escapeUnits, jsText, List.flatMap_assoc]

theorem dumps_visible (key : Key) (text : List CodePoint) :
    ∀ c ∈ dumps key text, 0x20 ≤ c.toNat ∧ c.toNat ≤ 0x7E := by
  have hkey := escapeUnits_visible (keyUnits_lt key)
  have htext := escapeUnits_visible (jsText_lt text)
  rw [dumps_eq, fieldText]
  simp only [List.mem_cons, List.mem_append, List.not_mem_nil, or_false]
  rintro c (rfl | rfl | hc | rfl | rfl | rfl | rfl | hc | rfl | rfl)
  case inr.inr.inl => exact hkey c hc
  case inr.inr.inr.inr.inr.inr.inr.inl => exact htext c hc
  all_goals decide

theorem chars_visible (line : WireLine) :
    ∀ c ∈ line.chars, 0x20 ≤ c.toNat ∧ c.toNat ≤ 0x7E := by
  cases line with
  | data key text =>
      have hmark : ∀ c ∈ dataMark, 0x20 ≤ c.toNat ∧ c.toNat ≤ 0x7E := by simp [dataMark]
      intro c hc
      rcases List.mem_append.mp hc with hc | hc
      · exact hmark c hc
      · exact dumps_visible key text c hc
  | errorName => simp [WireLine.chars]
  | blank => simp [WireLine.chars]

theorem newline_not_mem_chars (line : WireLine) : '\n' ∉ line.chars := by
  intro hmem
  exact absurd (chars_visible line '\n' hmem).1 (by decide)

theorem wire_ascii (events : List Event) : ∀ c ∈ wire events, c.toNat < 128 := by
  intro c hc
  obtain ⟨line, -, hc⟩ := List.mem_flatMap.mp hc
  rcases List.mem_append.mp hc with hc | hc
  · have := chars_visible line c hc
    omega
  · rw [List.mem_singleton.mp hc]
    decide

end Wire

section Trim

theorem trim_isInfix (s : List Char) : trim s <:+: s := by
  have hsuffix : s.dropWhile isTrimmed <:+ s := List.dropWhile_suffix _
  have hstart : trim s <+: s.dropWhile isTrimmed := by
    rw [trim, ← List.reverse_suffix, List.reverse_reverse]
    exact List.dropWhile_suffix _
  exact hstart.isInfix.trans hsuffix.isInfix

theorem trim_isPrefix {c : Char} (hc : isTrimmed c = false) (s : List Char) :
    trim (c :: s) <+: c :: s := by
  rw [trim, List.dropWhile_cons_of_neg (by simp [hc]), ← List.reverse_suffix,
    List.reverse_reverse]
  exact List.dropWhile_suffix _

theorem dropWhile_concat {c : Char} (hc : isTrimmed c = false) (s : List Char) :
    ∃ t, (s ++ [c]).dropWhile isTrimmed = t ++ [c] := by
  induction s with
  | nil => exact ⟨[], List.dropWhile_cons_of_neg (by simp [hc])⟩
  | cons d s ih =>
      cases hd : isTrimmed d with
      | true =>
          obtain ⟨t, ht⟩ := ih
          exact ⟨t, by rw [List.cons_append, List.dropWhile_cons_of_pos hd, ht]⟩
      | false =>
          exact ⟨d :: s, List.dropWhile_cons_of_neg (by simp [hd])⟩

theorem trim_concat {c : Char} (hc : isTrimmed c = false) (s : List Char) :
    ∃ t, trim (s ++ [c]) = t ++ [c] := by
  obtain ⟨t, ht⟩ := dropWhile_concat hc s
  refine ⟨t, ?_⟩
  rw [trim, ht, List.reverse_append, List.reverse_singleton, List.singleton_append,
    List.dropWhile_cons_of_neg (by simp [hc])]
  simp

theorem trim_cons_concat {c d : Char} (hc : isTrimmed c = false) (hd : isTrimmed d = false)
    (s : List Char) : trim (c :: (s ++ [d])) = c :: (s ++ [d]) := by
  rw [trim, List.dropWhile_cons_of_neg (by simp [hc]), ← List.cons_append,
    List.reverse_append, List.reverse_singleton, List.singleton_append,
    List.dropWhile_cons_of_neg (by simp [hd])]
  simp

theorem dataStr_eq_some {line s : List Char} :
    dataStr line = some s ↔ trim line = dataMark ++ s := by
  rw [dataStr]
  constructor
  · intro h
    split_ifs at h with hmark
    obtain ⟨rest, hrest⟩ := List.isPrefixOf_iff_prefix.mp hmark
    cases h
    rw [← hrest]
    rfl
  · intro h
    rw [h, if_pos (List.isPrefixOf_iff_prefix.mpr (List.prefix_append _ _))]
    rfl

end Trim

section Reader

variable (js : JsServices)

/-- What a line adds to the reply. -/
def lineText (line : List Char) : List Nat :=
  match dataStr line with
  | none => []
  | some s => contentOf js s

theorem lineText_nil : lineText js [] = [] := rfl

theorem lineText_of_dataStr {line s : List Char} (h : trim line = dataMark ++ s) :
    lineText js line = contentOf js s := by
  rw [lineText, dataStr_eq_some.mpr h]

theorem lineText_eq_nil {line : List Char}
    (h : ∀ s, trim line = dataMark ++ s → contentOf js s = []) : lineText js line = [] := by
  cases hdata : dataStr line with
  | none => rw [lineText, hdata]
  | some s =>
      have htrim := dataStr_eq_some.mp hdata
      rw [lineText_of_dataStr js htrim, h s htrim]

theorem contentOf_of_none {s : List Char} (h : parse s = none) : contentOf js s = [] := by
  rw [contentOf, h]

theorem contentOf_of_fields {s : List Char}
    (h : ∀ fields, parse s = some (.obj fields) → fields = []) : contentOf js s = [] := by
  cases hs : parse s with
  | none => exact contentOf_of_none js hs
  | some data =>
      have hprop : ∀ name, property name data = none := by
        intro name
        cases data with
        | obj fields => rw [h fields hs]; rfl
        | _ => rfl
      rw [contentOf, hs]
      simp only [hprop]
      rfl

theorem contentOf_dumps (key : Key) (text : List CodePoint) :
    contentOf js (dumps key text) =
      match key with
      | .content => jsText text
      | .message => [] := by
  rw [dumps_eq, contentOf, parse_fieldText (keyUnits_lt key) (jsText_lt text)]
  have hchunk : property chunkName (.obj [(key.units, .str (jsText text))]) = none := by
    cases key <;> rfl
  simp only [hchunk]
  cases key with
  | message => rfl
  | content =>
      have hcontent : property Key.content.units
          (.obj [(Key.content.units, .str (jsText text))]) = some (.str (jsText text)) := by
        simp [property]
      simp only [hcontent]
      cases hunits : jsText text with
      | nil => rfl
      | cons u units => rfl

/-- What a line that arrives whole adds. -/
def shown : WireLine → List Nat
  | .data .content text => jsText text
  | _ => []

theorem lineText_chars (line : WireLine) : lineText js line.chars = shown line := by
  cases line with
  | data key text =>
      have htrim : trim (WireLine.data key text).chars = dataMark ++ dumps key text := by
        have hsplit : (WireLine.data key text).chars =
            'd' :: ((['a', 't', 'a', ':', ' ', '{', '"'] ++ key.chars ++ ['"', ':', ' ', '"'] ++
              text.flatMap (fun n => escapeCodePoint n.val) ++ ['"']) ++ ['}']) := by
          simp [WireLine.chars, dataMark, dumps]
        rw [hsplit, trim_cons_concat (by decide) (by decide), ← hsplit]
        rfl
      rw [lineText_of_dataStr js htrim, contentOf_dumps]
      cases key <;> rfl
  | errorName => rfl
  | blank => rfl

theorem lineText_of_not_mem {line : List Char} (h : 'd' ∉ line) : lineText js line = [] := by
  apply lineText_eq_nil
  intro s htrim
  exact absurd ((trim_isInfix line).subset (by rw [htrim]; simp [dataMark])) h

theorem wholeOnly_of_not_mem {line : List Char} (h : 'd' ∉ line) :
    WholeOnly (lineText js) line := by
  refine ⟨fun p q hpq _ => ?_, fun p q x hpq _ hx => ?_⟩
  · exact lineText_of_not_mem js fun hmem => h (by simp [hpq, hmem])
  · exact lineText_of_not_mem js fun hmem => h (by simp [hpq, hx.subset hmem])

theorem data_beginning (key : Key) (text : List CodePoint) {p q : List Char}
    (hpq : dataMark ++ dumps key text = p ++ q) (hq : q ≠ []) : lineText js p = [] := by
  apply lineText_eq_nil
  intro s htrim
  have hp : dataMark ++ s <+: p := by
    rw [← htrim]
    cases p with
    | nil => exact List.prefix_refl _
    | cons c p =>
        have hc : c = 'd' := (List.cons.inj hpq).1.symm
        exact hc ▸ trim_isPrefix (by decide) p
  have hs : s <+: dumps key text := by
    rw [← List.prefix_append_right_inj dataMark, hpq]
    exact hp.trans (List.prefix_append p q)
  have hne : s ≠ dumps key text := by
    rintro rfl
    have hlength := hp.length_le
    rw [hpq, List.length_append] at hlength
    have := List.length_pos_iff.mpr hq
    omega
  rw [dumps_eq] at hs hne
  exact contentOf_of_none js (parse_truncated (keyUnits_lt key) (jsText_lt text) hs hne)

def dataHead (key : Key) : List Char :=
  ['a', 't', 'a', ':', ' ', '{', '"'] ++ key.chars ++ ['"', ':', ' ', '"']

theorem data_eq (key : Key) (text : List CodePoint) :
    dataMark ++ dumps key text =
      'd' :: (dataHead key ++ (escapeUnits (jsText text) ++ ['"', '}'])) := by
  rw [dumps_eq, fieldText, escapeUnits_keyUnits]
  simp [dataMark, dataHead]

theorem data_inner (key : Key) (text : List CodePoint) {p q x : List Char}
    (hpq : dataMark ++ dumps key text = p ++ q) (hp : p ≠ []) (hx : x <:+: q) :
    lineText js x = [] := by
  -- data is read from a later stretch only if the mark stands in the text, and no object with
  -- members starts there
  apply lineText_eq_nil
  intro s htrim
  apply contentOf_of_fields
  intro fields hparse
  obtain ⟨y, z, hq⟩ := (trim_isInfix x).trans hx
  cases p with
  | nil => exact absurd rfl hp
  | cons c p =>
      rw [data_eq] at hpq
      have htail : dataHead key ++ (escapeUnits (jsText text) ++ ['"', '}']) =
          (p ++ y) ++ 'd' :: (['a', 't', 'a', ':', ' '] ++ s ++ z) := by
        rw [(List.cons.inj hpq).2, ← hq, htrim]
        simp [dataMark]
      have hhead : 'd' ∉ dataHead key := by cases key <;> decide
      obtain ⟨w, hw⟩ := append_eq_append_cons hhead htail
      exact parse_obj_of_within (jsText_lt text) (y := w ++ dataMark) (z := z)
        (by rw [hw]; simp [dataMark]) hparse

theorem wholeOnly_chars (line : WireLine) : WholeOnly (lineText js) line.chars := by
  cases line with
  | data key text =>
      exact ⟨fun p q => data_beginning js key text, fun p q x => data_inner js key text⟩
  | errorName => exact wholeOnly_of_not_mem js (by decide)
  | blank => exact wholeOnly_of_not_mem js (by decide)

end Reader

section Reads

/-- The characters that may stand before a line break of the wire. -/
def EndsLine (c d : Char) : Prop :=
  d = '\n' → c = '}' ∨ c = 'r' ∨ c = '\n'

theorem isChain_of_not_mem {l : List Char} (h : '\n' ∉ l) : List.IsChain EndsLine l := by
  apply List.Pairwise.isChain
  rw [List.pairwise_iff_forall_sublist]
  rintro c d hsub rfl
  exact absurd (hsub.subset (by simp)) h

theorem getLast_chars (line : WireLine) :
    ∀ c ∈ line.chars.getLast?, c = '}' ∨ c = 'r' := by
  cases line with
  | data key text =>
      have hlast : (WireLine.data key text).chars.getLast? = some '}' := by
        rw [WireLine.chars, data_eq, List.getLast?_cons, List.getLast?_append,
          List.getLast?_append]
        rfl
      intro c hc
      rw [hlast] at hc
      cases hc
      exact Or.inl rfl
  | errorName =>
      intro c hc
      cases hc
      exact Or.inr rfl
  | blank =>
      intro c hc
      cases hc

theorem isChain_lines (lines : List WireLine) :
    List.IsChain EndsLine (lines.flatMap fun line => line.chars ++ ['\n']) := by
  induction lines with
  | nil => exact List.IsChain.nil
  | cons line lines ih =>
      rw [List.flatMap_cons, List.isChain_append, List.isChain_append]
      refine ⟨⟨isChain_of_not_mem (newline_not_mem_chars line), List.IsChain.singleton _, ?_⟩,
        ih, ?_⟩
      · intro c hc d _ _
        rcases getLast_chars line c hc with h | h
        · exact Or.inl h
        · exact Or.inr (Or.inl h)
      · intro c hc d _ _
        rw [List.getLast?_concat] at hc
        cases hc
        exact Or.inr (Or.inr rfl)

theorem handleLines_eq (js : JsServices) {lines : List (List Char)}
    (h : ∀ line ∈ lines.dropLast, dataStr line ≠ some doneMark) :
    handleLines js lines = lines.flatMap (lineText js) := by
  induction lines with
  | nil => rfl
  | cons line rest ih =>
      have hrest : handleLines js rest = rest.flatMap (lineText js) := by
        apply ih
        intro other hother
        have hne : rest ≠ [] := by rintro rfl; cases hother
        exact h other (by rw [List.dropLast_cons_of_ne_nil hne]; simp [hother])
      rw [List.flatMap_cons, ← hrest, handleLines, lineText]
      cases hdata : dataStr line with
      | none => rfl
      | some s =>
          by_cases hs : s = doneMark
          · -- Only the last line of a read may end the loop.
            have hnil : rest = [] := by
              by_contra hne
              refine h line ?_ (hs ▸ hdata)
              rw [List.dropLast_cons_of_ne_nil hne]
              simp
            subst hnil
            rw [hs]
            rfl
          · simp only [if_neg hs]

theorem dataStr_ne_done {events : List Event} {line : List Char} (hbreak : '\n' ∉ line)
    (h : line ++ ['\n'] <:+: wire events) : dataStr line ≠ some doneMark := by
  intro hdata
  have htrim := dataStr_eq_some.mp hdata
  rcases List.eq_nil_or_concat line with rfl | ⟨start, c, rfl⟩
  · cases htrim
  · rw [List.concat_eq_append] at h htrim hbreak
    have hchain := List.IsChain.infix (isChain_lines (wireLines events)) h
    rw [List.append_assoc] at hchain
    have hpair : EndsLine c '\n' := by
      have := hchain.right_of_append
      simpa using this
    have hc : c = '}' ∨ c = 'r' := by
      rcases hpair rfl with hc | hc | hc
      · exact Or.inl hc
      · exact Or.inr hc
      · simp [hc] at hbreak
    have hblank : isTrimmed c = false := by rcases hc with rfl | rfl <;> decide
    obtain ⟨t, ht⟩ := trim_concat hblank start
    have hlast : (dataMark ++ doneMark).getLast? = some c := by
      rw [← htrim, ht, List.getLast?_concat]
    have hdone : c = ']' := (Option.some.inj hlast).symm
    rcases hc with rfl | rfl <;> cases hdone

end Reads

section Delivery

variable (js : JsServices) {events : List Event} {reads : List (List Char)}

/-- The contents of the events, as the widget shows them. -/
def contentText (events : List Event) : List Nat :=
  jsText (events.flatMap Event.contentText)

theorem handleStreamingResponse_eq (hwire : reads.flatten = wire events) :
    handleStreamingResponse js reads = (pieces '\n' (tokens reads)).flatMap (lineText js) := by
  rw [flatMap_pieces_tokens '\n' (lineText js) (lineText_nil js)]
  apply List.flatMap_congr
  intro chunk hchunk
  apply handleLines_eq
  intro line hline
  have hmem : line ∈ splitChars '\n' chunk := List.dropLast_subset _ hline
  have hread : chunk <:+: wire events := hwire ▸ List.infix_of_mem_flatten hchunk
  exact dataStr_ne_done (not_mem_of_mem_splitChars hmem)
    ((infix_of_mem_dropLast hline).trans hread)

/-- The text that arrives, whatever the reads: that of the lines that no read
boundary falls into. -/
theorem handleStreamingResponse_text (hwire : reads.flatten = wire events) :
    handleStreamingResponse js reads =
      (placed WireLine.chars 0 (wireLines events)).flatMap fun entry =>
        if CutInside (cuts 0 reads) entry.1 entry.2.chars.length then []
        else shown entry.2 := by
  rw [handleStreamingResponse_eq js hwire, ← boundaries_tokens,
    flatMap_pieces_stream '\n' (lineText_nil js) WireLine.chars
      (fun line _ => wholeOnly_chars js line) (fun line _ => newline_not_mem_chars line)
      (by rw [chars_tokens, hwire]; rfl) 0]
  simp only [lineText_chars]

theorem flatMap_shown_placed (n : Nat) (lines : List WireLine) :
    ((placed WireLine.chars n lines).flatMap fun entry => shown entry.2) =
      lines.flatMap shown := by
  conv_rhs => rw [← map_placed WireLine.chars n lines, List.flatMap_map]

theorem flatMap_shown_wireLines (events : List Event) :
    (wireLines events).flatMap shown = contentText events := by
  rw [wireLines, List.flatMap_assoc, contentText, jsText, List.flatMap_assoc]
  apply List.flatMap_congr
  intro event _
  cases event with
  | content text => simp [Event.lines, shown, Event.contentText, jsText]
  | error message => rfl

theorem jsText_eq_nil {text : List CodePoint} : jsText text = [] ↔ text = [] := by
  cases text with
  | nil => simp [jsText]
  | cons n text =>
      simp only [jsText, List.flatMap_cons, List.append_eq_nil_iff, reduceCtorEq, iff_false,
        not_and]
      intro hn
      unfold utf16 at hn
      split at hn <;> cases hn

theorem handleStreamingResponse_uncut (hwire : reads.flatten = wire events)
    (h : ∀ entry ∈ placed WireLine.chars 0 (wireLines events), shown entry.2 ≠ [] →
      ¬ CutInside (cuts 0 reads) entry.1 entry.2.chars.length) :
    handleStreamingResponse js reads = contentText events := by
  rw [handleStreamingResponse_text js hwire, ← flatMap_shown_wireLines,
    ← flatMap_shown_placed 0]
  apply List.flatMap_congr
  intro entry hmem
  split_ifs with hcut
  · by_contra hne
    exact h entry hmem (Ne.symm hne) hcut
  · rfl

/-- The widget shows the contents exactly when no read ends inside the line of
a content that is not empty. -/
theorem handleStreamingResponse_lossless_iff (hwire : reads.flatten = wire events) :
    handleStreamingResponse js reads = contentText events ↔
      ∀ start text, text ≠ [] →
        (start, WireLine.data .content text) ∈ placed WireLine.chars 0 (wireLines events) →
          ¬ CutInside (cuts 0 reads) start (WireLine.data .content text).chars.length := by
  constructor
  · intro h start text htext hmem hcut
    rw [handleStreamingResponse_text js hwire, ← flatMap_shown_wireLines,
      ← flatMap_shown_placed 0, flatMap_eq_flatMap_iff] at h
    · have hshown := h _ hmem
      rw [if_pos hcut] at hshown
      exact htext (jsText_eq_nil.mp hshown.symm)
    · intro entry _
      split_ifs
      · exact Or.inl rfl
      · exact Or.inr rfl
  · intro h
    apply handleStreamingResponse_uncut js hwire
    rintro ⟨start, line⟩ hmem hshown
    cases line with
    | data key text =>
        cases key with
        | content => exact h start text (fun htext => hshown (jsText_eq_nil.mpr htext)) hmem
        | message => exact absurd rfl hshown
    | errorName => exact absurd rfl hshown
    | blank => exact absurd rfl hshown

end Delivery

section OneEvent

def plainJs : JsServices := ⟨fun _ => true, fun _ => []⟩

def greeting : List Event := [.content [72, 105]]

/-- The stream in two reads, cut at a position. -/
def twoReads (length : Nat) : List (List Char) :=
  [(wire greeting).take length, (wire greeting).drop length]

theorem twoReads_flatten (length : Nat) : (twoReads length).flatten = wire greeting := by
  simp [twoReads]

theorem greeting_arrives :
    handleStreamingResponse plainJs (twoReads 24) = contentText greeting := by
  refine (handleStreamingResponse_lossless_iff plainJs (twoReads_flatten 24)).mpr ?_
  intro start text _ hmem
  have hentry : (start, WireLine.data .content text) = (0, .data .content [72, 105]) := by
    simpa [greeting, wireLines, Event.lines, placed] using hmem
  cases hentry
  decide +kernel

/-- A read that ends inside the text loses it: the first half does not parse
and the second has no mark. -/
theorem greeting_lost : (twoReads 20).flatten = wire greeting ∧
    handleStreamingResponse plainJs (twoReads 20) = [] ∧ contentText greeting = [72, 105] := by
  decide +kernel

end OneEvent

section Stored

def codePoint (c : Char) : CodePoint :=
  ⟨c.toNat, by
    have h := c.valid
    simp only [UInt32.isValidChar, Nat.isValidChar] at h
    change c.val.toNat < _
    omega⟩

def codePoints (s : String) : List CodePoint :=
  s.toList.map codePoint

def Event.ofSse : SseEvent → Event
  | .content text => .content (codePoints text)
  | .error message => .error (codePoints message)

/-- What the server stores of an event. -/
def storedText : SseEvent → List CodePoint
  | .content text => codePoints text
  | .error message => codePoints message

theorem codePoints_append (s t : String) :
    codePoints (s ++ t) = codePoints s ++ codePoints t := by
  simp [codePoints]

theorem codePoints_eq_nil {s : String} : codePoints s = [] ↔ s = "" := by
  simp [codePoints]

/-- The stored reply is the text of all events, errors included. -/
def Complete (s : Streamed) : Prop :=
  codePoints s.fullResponse = s.events.flatMap storedText

theorem complete_streamResponse {selectedLlm : Json} {stream : LlmStream} {s : Streamed}
    (h : streamResponse selectedLlm stream = some s) : Complete s := by
  refine streamResponse_induction (P := Complete) ?_ ?_ ?_ h
  · intro usage
    rfl
  · intro message usage
    simp [Complete, streamFailure, storedText]
  · intro text rest hrest
    rw [Complete, Streamed.after, codePoints_append, hrest]
    rfl

theorem contentText_eq_text_iff (events : List SseEvent) :
    contentText (events.map Event.ofSse) = jsText (events.flatMap storedText) ↔
      ∀ message, SseEvent.error message ∈ events → message = "" := by
  have hcontent : contentText (events.map Event.ofSse) =
      events.flatMap fun event => jsText (Event.ofSse event).contentText := by
    simp only [contentText, jsText, List.flatMap_map, List.flatMap_assoc]
  have hstored : jsText (events.flatMap storedText) =
      events.flatMap fun event => jsText (storedText event) := by
    simp only [jsText, List.flatMap_assoc]
  rw [hcontent, hstored, flatMap_eq_flatMap_iff]
  · constructor
    · intro hall message hmem
      have heq := hall _ hmem
      exact codePoints_eq_nil.mp (jsText_eq_nil.mp heq.symm)
    · intro hall event hmem
      cases event with
      | content text => rfl
      | error message =>
          rw [hall message hmem]
          rfl
  · intro event _
    cases event with
    | content text => exact Or.inr rfl
    | error message => exact Or.inl rfl

theorem contentText_eq_stored_iff {selectedLlm : Json} {stream : LlmStream} {s : Streamed}
    (h : streamResponse selectedLlm stream = some s) :
    contentText (s.events.map Event.ofSse) = jsText (codePoints s.fullResponse) ↔
      ∀ message, SseEvent.error message ∈ s.events → message = "" := by
  rw [complete_streamResponse h]
  exact contentText_eq_text_iff s.events

/-- Of a stream that arrives whole, the visitor sees the stored reply exactly
when no error has been written into it. -/
theorem shown_eq_stored_iff (js : JsServices) {selectedLlm : Json} {stream : LlmStream}
    {s : Streamed} (h : streamResponse selectedLlm stream = some s)
    {reads : List (List Char)} (hwire : reads.flatten = wire (s.events.map Event.ofSse))
    (huncut : ∀ entry ∈ placed WireLine.chars 0 (wireLines (s.events.map Event.ofSse)),
      shown entry.2 ≠ [] → ¬ CutInside (cuts 0 reads) entry.1 entry.2.chars.length) :
    handleStreamingResponse js reads = jsText (codePoints s.fullResponse) ↔
      ∀ message, SseEvent.error message ∈ s.events → message = "" := by
  rw [handleStreamingResponse_uncut js hwire huncut]
  exact contentText_eq_stored_iff h

end Stored

end Botman.WidgetStream
