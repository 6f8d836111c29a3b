import Mathlib.Data.List.Basic
import Botman.Library.Transition

/-!
A client with one question under way at a time, over a service that keeps a log.

A question is answered, refused, or given up by the client; one that was given up before
the service saw it may still arrive later.  The client keeps what it got for each of its
questions.  The service has an entry for each question it took, with the answer where
there was one.
-/

namespace Botman.Library.StopAndWait

open Botman.Library.Transition

universe u v

variable {Q : Type u} {R : Type v}

/-- The question under way. -/
inductive Flight (Q : Type u) (R : Type v) where
  | idle
  | sent (q : Q)
  | served (q : Q) (result : Option R)

/-- `adrift` holds the questions that were given up before the service saw them. -/
structure Session (Q : Type u) (R : Type v) where
  past : List (Q × Option R)
  flight : Flight Q R
  adrift : List Q
  log : List (Q × Option R)

/-- The client asks, receives or gives up; the service sees the question, which it may
take and answer; and a question that was given up may arrive late. -/
inductive Event (Q : Type u) (R : Type v) where
  | ask (q : Q)
  | serve (taken : Bool) (result : Option R)
  | receive
  | giveUp
  | arrive (q : Q) (taken : Bool) (result : Option R)

/-- What the service adds to its log.  A question without an answer may have been taken or
not. -/
def entry (q : Q) (taken : Bool) : Option R → List (Q × Option R)
  | some r => [(q, some r)]
  | none => if taken then [(q, none)] else []

/-- The question got an answer. -/
def isAnswered (e : Q × Option R) : Bool := e.2.isSome

/-- The answer that is on its way to the client. -/
def Flight.answer : Flight Q R → List (Q × Option R)
  | .served q (some r) => [(q, some r)]
  | _ => []

/-- The entry of the question under way. -/
def Flight.entry (taken : Bool) : Flight Q R → List (Q × Option R)
  | .served q result => StopAndWait.entry q taken result
  | _ => []

@[simp]
theorem answer_idle : (Flight.idle : Flight Q R).answer = [] := rfl

@[simp]
theorem answer_sent (q : Q) : (Flight.sent q : Flight Q R).answer = [] := rfl

@[simp]
theorem entry_idle (taken : Bool) : (Flight.idle : Flight Q R).entry taken = [] := rfl

@[simp]
theorem entry_sent (q : Q) (taken : Bool) : (Flight.sent q : Flight Q R).entry taken = [] := rfl

theorem answer_sublist_entry (q : Q) (taken : Bool) (result : Option R) :
    (Flight.served q result).answer.Sublist (entry q taken result) := by
  cases result with
  | none => exact List.nil_sublist _
  | some r => exact List.Sublist.refl _

theorem filter_received (past : List (Q × Option R)) (q : Q) (result : Option R) :
    (past ++ [(q, result)]).filter isAnswered =
      past.filter isAnswered ++ (Flight.served q result).answer := by
  cases result <;> simp [isAnswered, Flight.answer]

variable [DecidableEq Q]

def next (s : Session Q R) : Event Q R → Option (Session Q R)
  | .ask q =>
      match s.flight with
      | .idle => some { s with flight := .sent q }
      | _ => none
  | .serve taken result =>
      match s.flight with
      | .sent q =>
          some { s with flight := .served q result, log := s.log ++ entry q taken result }
      | _ => none
  | .receive =>
      match s.flight with
      | .served q result => some { s with past := s.past ++ [(q, result)], flight := .idle }
      | _ => none
  | .giveUp =>
      match s.flight with
      | .idle => none
      | .sent q =>
          some { s with past := s.past ++ [(q, none)], flight := .idle, adrift := q :: s.adrift }
      | .served q _ => some { s with past := s.past ++ [(q, none)], flight := .idle }
  | .arrive q taken result =>
      if q ∈ s.adrift then
        some { s with adrift := s.adrift.erase q, log := s.log ++ entry q taken result }
      else none

/-- The answers that the client has or will get stand in the log, in their order.  While
every question was answered nothing is adrift, and the log has nothing else but an entry
of the question under way. -/
structure Inv (s : Session Q R) : Prop where
  answers : (s.past.filter isAnswered ++ s.flight.answer).Sublist s.log
  settled : s.past.all isAnswered = true → s.adrift = [] ∧
    ∃ taken, s.log = s.past ++ s.flight.entry taken

theorem inv_next {s t : Session Q R} {event : Event Q R} (hinv : Inv s)
    (h : next s event = some t) : Inv t := by
  obtain ⟨hanswers, hsettled⟩ := hinv
  cases event with
  | ask q =>
      simp only [next] at h
      split at h
      · rename_i hidle
        cases h
        rw [hidle] at hanswers hsettled
        exact ⟨hanswers, hsettled⟩
      · cases h
  | serve taken result =>
      simp only [next] at h
      split at h
      · rename_i q hsent
        cases h
        rw [hsent] at hanswers hsettled
        refine ⟨?_, ?_⟩
        · rw [answer_sent, List.append_nil] at hanswers
          exact hanswers.append (answer_sublist_entry q taken result)
        · intro hall
          obtain ⟨hadrift, _, hlog⟩ := hsettled hall
          rw [entry_sent, List.append_nil] at hlog
          exact ⟨hadrift, taken, by rw [hlog]; rfl⟩
      · cases h
  | receive =>
      simp only [next] at h
      split at h
      · rename_i q result hserved
        cases h
        rw [hserved] at hanswers hsettled
        refine ⟨?_, ?_⟩
        · rw [filter_received, answer_idle, List.append_nil]
          exact hanswers
        · intro hall
          rw [List.all_append, Bool.and_eq_true] at hall
          obtain ⟨hadrift, taken, hlog⟩ := hsettled hall.1
          obtain ⟨r, rfl⟩ : ∃ r, result = some r := by
            simpa [isAnswered, Option.isSome_iff_exists] using hall.2
          exact ⟨hadrift, taken, by rw [hlog, entry_idle, List.append_nil]; rfl⟩
      · cases h
  | giveUp =>
      -- the answer, if there was one, does not count: its entry stays in the log
      have hkept : ∀ q : Q, ((s.past ++ [(q, none)]).filter isAnswered ++
          Flight.answer (.idle : Flight Q R)).Sublist s.log := by
        intro q
        have hnone : (Flight.served q (none : Option R)).answer = [] := rfl
        rw [filter_received, hnone, answer_idle, List.append_nil, List.append_nil]
        exact (List.sublist_append_left _ _).trans hanswers
      have hopen : ∀ q : Q, (s.past ++ [(q, (none : Option R))]).all isAnswered ≠ true := by
        intro q hall
        simp [isAnswered] at hall
      simp only [next] at h
      split at h
      · cases h
      · cases h
        exact ⟨hkept _, fun hall => absurd hall (hopen _)⟩
      · cases h
        exact ⟨hkept _, fun hall => absurd hall (hopen _)⟩
  | arrive q taken result =>
      simp only [next] at h
      split at h
      · rename_i hmem
        cases h
        refine ⟨hanswers.trans (List.sublist_append_left _ _), ?_⟩
        intro hall
        rw [(hsettled hall).1] at hmem
        cases hmem
      · cases h

theorem inv_of_reaches {s : Session Q R}
    (hrun : Reaches next anyStep ⟨[], .idle, [], []⟩ s) : Inv s := by
  refine invariant_of_reaches Inv (fun _ _ _ hinv _ => inv_next hinv) ?_ hrun
  exact ⟨List.Sublist.refl _, fun _ => ⟨rfl, true, rfl⟩⟩

end Botman.Library.StopAndWait
