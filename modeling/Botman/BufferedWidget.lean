import Botman.Library.BlockText
import Botman.WidgetStream

/-!
A streamed reply on its way to the widget of the frontend: `handleResponse`
keeps what is not yet a whole event in a buffer.

Reads are lists of characters as in `WidgetStream`: the events are ASCII.
-/

namespace Botman.BufferedWidget

open Botman.Library.PythonValue
open Botman.Library.JsonText
open Botman.Library.CutText
open Botman.Library.BlockText
open Botman.ChatService
open Botman.WidgetStream

def eventMark : List Char := ['e', 'v', 'e', 'n', 't', ':', ' ']

def messageType : List Char := ['m', 'e', 's', 's', 'a', 'g', 'e']

def errorType : List Char := ['e', 'r', 'r', 'o', 'r']

/-- What the lines of one part have set so far. -/
structure Part where
  eventType : List Char
  data : JsonValue

/-- One line of a part.  Data that does not parse is only reported. -/
def Part.readLine (part : Part) (line : List Char) : Part :=
  if eventMark.isPrefixOf line then { part with eventType := trim (line.drop 7) }
  else if dataMark.isPrefixOf line then
    match parse (line.drop 6) with
    | none => part
    | some data => { part with data := data }
  else part

/-- The lines of a part of the buffer, from the defaults on. -/
def readPart (text : List Char) : Part :=
  (splitChars '\n' text).foldl Part.readLine { eventType := messageType, data := .null }

/-- A value within a template literal. -/
def interpolated (js : JsServices) : Option JsonValue → List Nat
  | none => ['u', 'n', 'd', 'e', 'f', 'i', 'n', 'e', 'd'].map Char.toNat
  | some (.str units) => units
  | some other => js.toText other

/-- What the handler holds: the text so far, the element of the bot's message
with the text it shows, and the messages saved. -/
structure View where
  currentText : List Nat
  botMessage : Option (List Nat)
  saved : List (List Nat)
  deriving DecidableEq

/-- Before the first event nothing is shown, and nothing is stored. -/
def View.empty : View where
  currentText := []
  botMessage := none
  saved := []

def errorPrompt : List Nat := ['E', 'r', 'r', 'o', 'r', ':', ' '].map Char.toNat

/-- The branch for an error: it is added to the message, or becomes one. -/
def View.showError (js : JsServices) (view : View) (data : JsonValue) : View :=
  let message := errorPrompt ++ interpolated js (property Key.message.units data)
  match view.botMessage with
  | some text =>
      { view with
        botMessage := some (text ++ ['\n', '['].map Char.toNat ++ message ++ [']'.toNat]) }
  | none => { view with botMessage := some message, saved := view.saved ++ [message] }

/-- The branch for a piece of the message. -/
def View.showContent (js : JsServices) (view : View) (data : JsonValue) : View :=
  let content := property Key.content.units data
  if isTruthy js content then
    let text := view.currentText ++ appended js content
    { view with currentText := text, botMessage := some text }
  else { view with botMessage := some (view.botMessage.getD []) }

/-- The two branches for an event with data. -/
def View.handleEvent (js : JsServices) (view : View) (part : Part) : View :=
  if part.eventType = errorType then view.showError js part.data
  else view.showContent js part.data

/-- The body of the loop over the parts, around what it does with an event. -/
def handlePart {V : Type} (js : JsServices) (handleEvent : V → Part → V) (view : V)
    (text : List Char) : V :=
  if isTruthy js (some (readPart text).data) then handleEvent view (readPart text) else view

/-- The loop over the reads: the state at the end, and the buffer. -/
def readStream {V : Type} (js : JsServices) (handleEvent : V → Part → V) (start : V)
    (reads : List (List Char)) : V × List Char :=
  reads.foldl (feed '\n' (handlePart js handleEvent)) (start, [])

/-- The block `finally`: a message that was begun is saved. -/
def View.finish (view : View) : View :=
  if view.botMessage.isSome then { view with saved := view.saved ++ [view.currentText] }
  else view

/-- `handleResponse` of a stream that ends: what is held at the end, and the
buffer. -/
def handleResponse (js : JsServices) (reads : List (List Char)) : View × List Char :=
  let out := readStream js (View.handleEvent js) .empty reads
  (out.1.finish, out.2)

/-- What the visitor is to see of an event: a content is added to the reply, which takes the
place of what was shown; an error is put after it in brackets, or becomes a message of its
own. -/
def View.receive (view : View) : Event → View
  | .content text =>
      if jsText text = [] then { view with botMessage := some (view.botMessage.getD []) }
      else
        { view with
          currentText := view.currentText ++ jsText text
          botMessage := some (view.currentText ++ jsText text) }
  | .error message =>
      match view.botMessage with
      | some shown =>
          { view with
            botMessage := some (shown ++ "\n[Error: ".toList.map Char.toNat ++ jsText message ++
              "]".toList.map Char.toNat) }
      | none =>
          { view with
            botMessage := some ("Error: ".toList.map Char.toNat ++ jsText message)
            saved := view.saved ++ ["Error: ".toList.map Char.toNat ++ jsText message] }

section Blocks

/-- What the server writes for an event, without the empty line that ends it. -/
def block : Event → List Char
  | .content text => (WireLine.data .content text).chars
  | .error message => WireLine.errorName.chars ++ '\n' :: (WireLine.data .message message).chars

theorem wire_eq (events : List Event) :
    wire events = events.flatMap fun event => block event ++ ['\n', '\n'] := by
  rw [wire, wireLines, List.flatMap_assoc]
  refine List.flatMap_congr fun event _ => ?_
  cases event with
  | content text => simp [Event.lines, block, WireLine.chars]
  | error message => simp [Event.lines, block, WireLine.chars]

theorem isChain_line {line : List Char} (h : '\n' ∉ line) :
    List.IsChain (fun c d => ¬(c = '\n' ∧ d = '\n')) (line ++ ['\n']) := by
  induction line with
  | nil => exact List.IsChain.singleton _
  | cons c line ih =>
      have hc : c ≠ '\n' := fun hc => h (hc ▸ List.mem_cons_self)
      have hrest := ih fun hmem => h (List.mem_cons_of_mem _ hmem)
      rw [List.cons_append]
      refine List.IsChain.cons hrest fun d _ hpair => hc hpair.1

theorem isChain_block (event : Event) :
    List.IsChain (fun c d => ¬(c = '\n' ∧ d = '\n')) (block event ++ ['\n']) := by
  cases event with
  | content text => exact isChain_line (newline_not_mem_chars (.data .content text))
  | error message =>
      have hname := isChain_line (newline_not_mem_chars .errorName)
      have hdata := isChain_line (newline_not_mem_chars (.data .message message))
      rw [block, List.append_assoc, List.cons_append, ← List.singleton_append,
        ← List.append_assoc, List.isChain_append]
      refine ⟨hname, hdata, fun c _ d hd hpair => ?_⟩
      have hd : d = 'd' := by
        simpa [WireLine.chars, dataMark, eq_comm] using hd
      rw [hd] at hpair
      exact absurd hpair.2 (by decide)

theorem splitBlocks_wire (events : List Event) :
    splitBlocks '\n' (wire events) = (events.map block, []) := by
  rw [wire_eq]
  induction events with
  | nil => rfl
  | cons event events ih =>
      rw [List.flatMap_cons, List.append_assoc, List.cons_append, List.cons_append,
        List.nil_append, splitBlocks_block (isChain_block event), ih]
      rfl

end Blocks

section Events

variable (js : JsServices)

/-- What the widget reads of it. -/
def sent : Event → Part
  | .content text =>
      { eventType := messageType
        data := .obj [(Key.content.units, .str (jsText text))] }
  | .error message =>
      { eventType := errorType
        data := .obj [(Key.message.units, .str (jsText message))] }

theorem splitChars_line {line : List Char} (h : '\n' ∉ line) : splitChars '\n' line = [line] := by
  rw [← pieces_read, pieces_map_some '\n' h]

theorem splitChars_lines {line rest : List Char} (h : '\n' ∉ line) :
    splitChars '\n' (line ++ '\n' :: rest) = line :: splitChars '\n' rest := by
  rw [← pieces_read, List.map_append, List.map_cons, pieces_append '\n' (Or.inr rfl),
    pieces_read, pieces_read, splitChars_line h]
  rfl

theorem readLine_data (part : Part) (key : Key) (text : List CodePoint) :
    part.readLine (WireLine.data key text).chars =
      { part with data := .obj [(key.units, .str (jsText text))] } := by
  have hparse : parse ((WireLine.data key text).chars.drop 6) =
      some (.obj [(key.units, .str (jsText text))]) := by
    have hdrop : (WireLine.data key text).chars.drop 6 = dumps key text := rfl
    rw [hdrop, dumps_eq, parse_fieldText (keyUnits_lt key) (jsText_lt text)]
  have hevent : eventMark.isPrefixOf (WireLine.data key text).chars = false := rfl
  have hdata : dataMark.isPrefixOf (WireLine.data key text).chars = true := rfl
  simp only [Part.readLine, hevent, hdata, hparse, Bool.false_eq_true, if_false, if_true]

theorem readLine_errorName (part : Part) :
    part.readLine WireLine.errorName.chars = { part with eventType := errorType } := by
  have hevent : eventMark.isPrefixOf WireLine.errorName.chars = true := by decide
  have htype : trim (WireLine.errorName.chars.drop 7) = errorType := by decide
  simp only [Part.readLine, hevent, htype, if_true]

theorem readPart_block (event : Event) : readPart (block event) = sent event := by
  cases event with
  | content text =>
      have hlines := splitChars_line (newline_not_mem_chars (.data .content text))
      rw [readPart, block, hlines, List.foldl_cons, List.foldl_nil, readLine_data]
      rfl
  | error message =>
      have hlines := splitChars_line (newline_not_mem_chars (.data .message message))
      rw [readPart, block, splitChars_lines (newline_not_mem_chars .errorName), hlines,
        List.foldl_cons, List.foldl_cons, List.foldl_nil, readLine_errorName, readLine_data]
      rfl

theorem handlePart_block {V : Type} (handleEvent : V → Part → V) (view : V) (event : Event) :
    handlePart js handleEvent view (block event) = handleEvent view (sent event) := by
  unfold handlePart
  rw [readPart_block]
  cases event <;> rfl

theorem readStream_eq {V : Type} (handleEvent : V → Part → V) (start : V) {events : List Event}
    {reads : List (List Char)} (hwire : reads.flatten = wire events) :
    readStream js handleEvent start reads = ((events.map sent).foldl handleEvent start, []) := by
  have hbuffer : (splitBlocks '\n' ([] : List Char)).1 = [] := rfl
  have hreads := foldl_feed '\n' (handlePart js handleEvent) start hbuffer reads
  rw [List.nil_append, hwire, splitBlocks_wire] at hreads
  rw [readStream, hreads, List.foldl_map, List.foldl_map]
  simp only [handlePart_block]

theorem handleEvent_sent (view : View) (event : Event) :
    view.handleEvent js (sent event) = view.receive event := by
  cases event with
  | content text =>
      have hcontent : property Key.content.units
          (.obj [(Key.content.units, .str (jsText text))]) = some (.str (jsText text)) := by
        simp [property]
      have htype : ¬ messageType = errorType := by decide
      simp only [View.handleEvent, sent, htype, if_false, View.showContent, hcontent,
        View.receive]
      cases hunits : jsText text with
      | nil => simp [isTruthy]
      | cons u units => simp [isTruthy, appended]
  | error message =>
      have hmessage : property Key.message.units
          (.obj [(Key.message.units, .str (jsText message))]) = some (.str (jsText message)) := by
        simp [property]
      simp only [View.handleEvent, sent, if_true, View.showError, hmessage, interpolated,
        View.receive]
      cases view.botMessage with
      | none => rfl
      | some shown => simp [errorPrompt]

theorem handleResponse_eq {events : List Event} {reads : List (List Char)}
    (hwire : reads.flatten = wire events) :
    handleResponse js reads = ((events.foldl View.receive .empty).finish, []) := by
  simp only [handleResponse, readStream_eq js (View.handleEvent js) .empty hwire,
    List.foldl_map, handleEvent_sent]

theorem currentText_receive (view : View) (event : Event) :
    (view.receive event).currentText = view.currentText ++ jsText event.contentText := by
  cases event with
  | content text =>
      by_cases hnil : jsText text = [] <;> simp [View.receive, Event.contentText, hnil]
  | error message =>
      unfold View.receive
      cases view.botMessage <;> simp [Event.contentText, jsText]

theorem currentText_foldl_receive (view : View) (events : List Event) :
    (events.foldl View.receive view).currentText = view.currentText ++ contentText events := by
  induction events generalizing view with
  | nil => simp [contentText, jsText]
  | cons event events ih =>
      rw [List.foldl_cons, ih, currentText_receive]
      simp [contentText, jsText]

theorem currentText_finish (view : View) : view.finish.currentText = view.currentText := by
  unfold View.finish
  split <;> rfl

theorem currentText_handleResponse {events : List Event} {reads : List (List Char)}
    (hwire : reads.flatten = wire events) :
    (handleResponse js reads).1.currentText = contentText events := by
  rw [handleResponse_eq js hwire, currentText_finish, currentText_foldl_receive]
  rfl

/-- However the stream is cut into reads, whatever is done with an event is done with the
events as they were sent, in order and once each.  In the widget, this leaves what is to be
seen of the events, the text of the contents and an empty buffer. -/
theorem handleResponse_roundTrip {events : List Event} {reads : List (List Char)}
    (hwire : reads.flatten = wire events) :
    (∀ {V : Type} (handleEvent : V → Part → V) (start : V),
        readStream js handleEvent start reads =
          ((events.map sent).foldl handleEvent start, [])) ∧
      handleResponse js reads = ((events.foldl View.receive .empty).finish, []) ∧
      (handleResponse js reads).1.currentText = contentText events :=
  ⟨fun handleEvent start => readStream_eq js handleEvent start hwire, handleResponse_eq js hwire,
    currentText_handleResponse js hwire⟩

/-- The text in the widget is the reply that the server stores, whatever the
cuts, exactly when no error has been written into the reply. -/
theorem currentText_eq_stored_iff {selectedLlm : Json} {stream : LlmStream} {s : Streamed}
    (h : streamResponse selectedLlm stream = some s) {reads : List (List Char)}
    (hwire : reads.flatten = wire (s.events.map Event.ofSse)) :
    (handleResponse js reads).1.currentText = jsText (codePoints s.fullResponse) ↔
      ∀ message, SseEvent.error message ∈ s.events → message = "" := by
  rw [currentText_handleResponse js hwire]
  exact contentText_eq_stored_iff h

end Events

def brokenGreeting : List Event := greeting ++ [.error [codePoint '!']]

/-- Every byte in a read of its own. -/
def byteReads (events : List Event) : List (List Char) :=
  (wire events).map fun c => [c]

theorem flatten_byteReads (events : List Event) : (byteReads events).flatten = wire events := by
  rw [byteReads, ← List.flatMap_def, List.flatMap_singleton']

theorem brokenGreeting_arrives :
    (byteReads brokenGreeting).flatten = wire brokenGreeting ∧
      handleResponse plainJs (byteReads brokenGreeting) =
        ({ currentText := [72, 105]
           botMessage := some ("Hi\n[Error: !]".toList.map Char.toNat)
           saved := [[72, 105]] }, []) := by
  have hwire := flatten_byteReads brokenGreeting
  obtain ⟨-, hview, -⟩ := handleResponse_roundTrip plainJs hwire
  refine ⟨hwire, hview.trans ?_⟩
  decide

end Botman.BufferedWidget
