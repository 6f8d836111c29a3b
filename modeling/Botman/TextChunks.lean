import Botman.KnowledgeTask
import Botman.Library.SlidingWindow
import Botman.Library.WhileLoop

/-!
`split_text`, for every chunk size and overlap: the loop ends, and the chunks
are the windows of the text.

The loop is run here as the source writes it, without a bound on its rounds.
What it ends with is what the model of the ingestion computes.
-/

namespace Botman.TextChunks

open Botman.Library.SlidingWindow
open Botman.Library.WhileLoop
open Botman.KnowledgeTask

/-- The variables `start` and `chunks` of the loop. -/
structure SplitState where
  start : Nat
  chunks : List (List Char)

def SplitState.initial : SplitState where
  start := 0
  chunks := []

/-- The body of the `while` loop of `split_text`. -/
def splitRound (text : List Char) (chunkSize chunkOverlap : Nat) (s : SplitState) :
    Round SplitState :=
  if s.start < text.length then
    let stop := min (s.start + chunkSize) text.length
    let chunk := (text.drop s.start).take (stop - s.start)
    let chunks := s.chunks ++ [chunk]
    if stop = text.length then .done { s with chunks := chunks }
    else
      .again { start := s.start + max 1 (chunkSize - chunkOverlap), chunks := chunks }
  else .done s

variable {text : List Char} {chunkSize chunkOverlap : Nat}

theorem endsIn_splitLoop (text : List Char) (chunkSize chunkOverlap : Nat) {fuel : Nat}
    (s : SplitState) (hfuel : text.length - s.start ≤ fuel) :
    ∃ last, EndsIn (splitRound text chunkSize chunkOverlap) s
      ⟨last, s.chunks ++ splitLoop text chunkSize chunkOverlap fuel s.start⟩ := by
  induction fuel generalizing s with
  | zero =>
      refine ⟨s.start, .done ?_⟩
      rw [splitRound, if_neg (by omega), splitLoop, List.append_nil]
  | succ fuel ih =>
      rw [splitLoop]
      by_cases hmore : s.start < text.length
      · by_cases hend : min (s.start + chunkSize) text.length = text.length
        · refine ⟨s.start, .done ?_⟩
          simp only [splitRound, hmore, hend, if_true]
        · obtain ⟨last, hrest⟩ := ih
            ⟨s.start + max 1 (chunkSize - chunkOverlap),
              s.chunks ++ [(text.drop s.start).take
                (min (s.start + chunkSize) text.length - s.start)]⟩
            (by simp only; omega)
          refine ⟨last, .again (by simp only [splitRound, hmore, hend, if_true, if_false]; rfl) ?_⟩
          simpa [hmore, hend] using hrest
      · refine ⟨s.start, .done ?_⟩
        simp [splitRound, hmore]

/-- Before a round, the chunks are the windows up to the current position. -/
def Cut (text : List Char) (chunkSize step : Nat) (s : SplitState) : Prop :=
  ∃ i < windowCount text chunkSize step, s.start = i * step ∧
    s.chunks = (List.range i).map fun j => (window text chunkSize step j).text

section Rounds

variable (htext : text ≠ []) (hsize : 1 ≤ chunkSize)

include htext hsize

theorem splitRound_of_cut {s : SplitState}
    (hs : Cut text chunkSize (max 1 (chunkSize - chunkOverlap)) s) :
    let step := max 1 (chunkSize - chunkOverlap)
    ∃ i < windowCount text chunkSize step, s.start = i * step ∧
      splitRound text chunkSize chunkOverlap s =
        let chunks := (List.range (i + 1)).map fun j => (window text chunkSize step j).text
        if i + 1 < windowCount text chunkSize step then .again ⟨(i + 1) * step, chunks⟩
        else .done ⟨i * step, chunks⟩ := by
  -- a round cuts the next window; the last window ends the loop
  intro step
  obtain ⟨i, hi, hstart, hchunks⟩ := hs
  change s.start = i * step at hstart
  have hstep : 0 < step := by omega
  have hmore : s.start < text.length := by
    rw [hstart]
    exact start_lt_length hstep (by omega) htext hi
  have hend : min (s.start + chunkSize) text.length = text.length ↔
      ¬ i + 1 < windowCount text chunkSize step := by
    rw [succ_lt_windowCount_iff hstep, hstart]
    omega
  have hlonger : s.chunks ++ [(text.drop s.start).take
        (min (s.start + chunkSize) text.length - s.start)] =
      (List.range (i + 1)).map fun j => (window text chunkSize step j).text := by
    rw [hchunks, hstart, List.range_succ, List.map_append]
    rfl
  refine ⟨i, hi, hstart, ?_⟩
  rw [splitRound, if_pos hmore]
  dsimp only
  rw [hlonger, hstart]
  by_cases hlater : i + 1 < windowCount text chunkSize step
  · rw [if_pos hlater, ← hstart, if_neg (fun h => hend.mp h hlater), hstart, Nat.succ_mul]
  · rw [if_neg hlater, ← hstart, if_pos (hend.mpr hlater)]

theorem chunks_of_done {s t : SplitState}
    (hs : Cut text chunkSize (max 1 (chunkSize - chunkOverlap)) s)
    (hdone : splitRound text chunkSize chunkOverlap s = .done t) :
    t.chunks =
      (windows text chunkSize (max 1 (chunkSize - chunkOverlap))).map Span.text := by
  obtain ⟨i, hi, -, hround⟩ := splitRound_of_cut htext hsize hs
  rw [hround] at hdone
  dsimp only at hdone
  split at hdone
  · cases hdone
  · rename_i hlast
    cases hdone
    have hcount := Nat.le_antisymm hi (Nat.le_of_not_lt hlast)
    rw [windows, List.map_map, ← hcount]
    rfl

theorem cut_of_again {s t : SplitState}
    (hs : Cut text chunkSize (max 1 (chunkSize - chunkOverlap)) s)
    (hagain : splitRound text chunkSize chunkOverlap s = .again t) :
    Cut text chunkSize (max 1 (chunkSize - chunkOverlap)) t ∧
      text.length - t.start < text.length - s.start := by
  obtain ⟨i, hi, hstart, hround⟩ := splitRound_of_cut htext hsize hs
  rw [hround] at hagain
  dsimp only at hagain
  split at hagain
  · rename_i hlater
    cases hagain
    refine ⟨⟨i + 1, hlater, rfl, rfl⟩, ?_⟩
    have hmore := start_lt_length (by omega) (by omega) htext hi
    rw [hstart]
    dsimp only
    rw [Nat.succ_mul]
    omega
  · cases hagain

theorem endsIn_windows (chunkOverlap : Nat) :
    ∃ last, EndsIn (splitRound text chunkSize chunkOverlap) .initial
      ⟨last, (windows text chunkSize (max 1 (chunkSize - chunkOverlap))).map Span.text⟩ := by
  have hinit : Cut text chunkSize (max 1 (chunkSize - chunkOverlap)) .initial :=
    ⟨0, by unfold windowCount; omega, by simp [SplitState.initial]⟩
  obtain ⟨t, hends, hchunks⟩ := exists_endsIn
    (Cut text chunkSize (max 1 (chunkSize - chunkOverlap))) (fun s => text.length - s.start)
    (fun _ _ => chunks_of_done htext hsize) (fun _ _ => cut_of_again htext hsize) hinit
  refine ⟨t.start, ?_⟩
  rw [← hchunks]
  exact hends

end Rounds

theorem splitText_eq_windows {text : String} (htext : text ≠ "") (hsize : 1 ≤ chunkSize)
    (chunkOverlap : Nat) :
    splitText text chunkSize chunkOverlap =
      (windows text.toList chunkSize (max 1 (chunkSize - chunkOverlap))).map fun s =>
        String.ofList s.text := by
  have hchars : text.toList ≠ [] := by simpa using htext
  have hfuel : text.toList.length - SplitState.initial.start ≤ text.length := by
    rw [String.length_toList]
    exact Nat.sub_le _ _
  obtain ⟨last, hloop⟩ := endsIn_splitLoop text.toList chunkSize chunkOverlap .initial hfuel
  obtain ⟨last', hwindows⟩ := endsIn_windows hchars hsize chunkOverlap
  have hsame : splitLoop text.toList chunkSize chunkOverlap text.length 0 = _ :=
    congrArg SplitState.chunks (hloop.unique hwindows)
  rw [splitText, hsame, List.map_map]
  rfl

/-- The laws of `split_text`: the loop ends, and its chunks are the slices of the
text at the multiples of the step, each as long as the chunk size but the last,
which is at most that long and reaches the end of the text.  No chunk lies within
the one before it, together they rebuild the text, and there are no more of them
than it takes. -/
theorem splitText_tight (text : String) (chunkSize chunkOverlap : Nat) (htext : text ≠ "")
    (hsize : 1 ≤ chunkSize) :
    ∃ spans : List (Span Char),
      (∃ last, EndsIn (splitRound text.toList chunkSize chunkOverlap) .initial
        ⟨last, spans.map Span.text⟩) ∧
      splitText text chunkSize chunkOverlap = spans.map (fun s => String.ofList s.text) ∧
      Tight text.toList chunkSize (max 1 (chunkSize - chunkOverlap)) spans := by
  have hchars : text.toList ≠ [] := by simpa using htext
  refine ⟨windows text.toList chunkSize (max 1 (chunkSize - chunkOverlap)), ?_, ?_, ?_⟩
  · exact endsIn_windows hchars hsize chunkOverlap
  · exact splitText_eq_windows htext hsize chunkOverlap
  · exact tight_windows (by omega) (by omega) hchars

theorem tenDigits_tight : ∃ spans : List (Span Char),
    splitText "1234567890" 4 2 = spans.map (fun s => String.ofList s.text) ∧
      spans.length = 4 ∧ rebuild spans = "1234567890".toList := by
  obtain ⟨spans, -, htexts, htight⟩ := splitText_tight "1234567890" 4 2 (by decide) (by decide)
  exact ⟨spans, htexts, htight.count, htight.rebuilds⟩

end Botman.TextChunks
