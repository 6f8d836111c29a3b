import Botman.Library.Transition

/-!
Noninterference: what an observer sees of the state of a system, and the outputs of the
steps that concern the observer, depend on these steps alone.

The proof is by unwinding: two conditions on single steps say that a step of others leaves
the view as it is, and that an own step does the same in all states that look the same.
-/

namespace Botman.Library.NonInterference

open Botman.Library.Transition

universe u v w x

/-- What someone sees of a state and of a step, and which steps concern them. -/
structure Observer (S : Type u) (A : Type v) (V : Type w) (O : Type x) where
  view : S → V
  output : S → A → O
  concerns : A → Bool

variable {S : Type u} {A : Type v} {V : Type w} {O : Type x} (o : Observer S A V O)
  (step : S → A → S) (Inv : S → Prop)

/-- The outputs of the steps of a run that concern the observer. -/
def Observer.outputs (s : S) (labels : List A) : List O :=
  ((visits step s labels).filter fun visit => o.concerns visit.2).map fun visit =>
    o.output visit.1 visit.2

/-- The unwinding conditions: steps of others change nothing in the view, and steps of
the observer depend on the view alone. -/
structure Unwinds : Prop where
  kept : ∀ s a, Inv s → Inv (step s a)
  respects : ∀ s a, Inv s → o.concerns a = false → o.view (step s a) = o.view s
  consistent : ∀ s t a, Inv s → Inv t → o.concerns a = true → o.view s = o.view t →
    o.view (step s a) = o.view (step t a) ∧ o.output s a = o.output t a

variable {o step Inv}

theorem Unwinds.purge (h : Unwinds o step Inv) (labels : List A) {s t : S} (hs : Inv s)
    (ht : Inv t) (hview : o.view s = o.view t) :
    o.view (labels.foldl step s) = o.view ((labels.filter o.concerns).foldl step t) ∧
      o.outputs step s labels = o.outputs step t (labels.filter o.concerns) := by
  induction labels generalizing s t with
  | nil => exact ⟨hview, rfl⟩
  | cons a rest ih =>
      cases hconcerns : o.concerns a with
      | false =>
          have hsame := (h.respects s a hs hconcerns).trans hview
          obtain ⟨hlast, houts⟩ := ih (h.kept s a hs) ht hsame
          rw [List.filter_cons_of_neg (by simp [hconcerns])]
          refine ⟨hlast, ?_⟩
          rw [← houts, Observer.outputs, visits, List.filter_cons_of_neg (by simp [hconcerns]),
            Observer.outputs]
      | true =>
          obtain ⟨hnext, hout⟩ := h.consistent s t a hs ht hconcerns hview
          obtain ⟨hlast, houts⟩ := ih (h.kept s a hs) (h.kept t a ht) hnext
          rw [List.filter_cons_of_pos hconcerns]
          refine ⟨hlast, ?_⟩
          rw [Observer.outputs, Observer.outputs, visits, visits,
            List.filter_cons_of_pos (by simp [hconcerns]),
            List.filter_cons_of_pos (by simp [hconcerns]), List.map_cons, List.map_cons, hout]
          exact congrArg _ houts

/-- Two runs with the same steps of the observer look the same to the observer. -/
theorem Unwinds.noninterference (h : Unwinds o step Inv) {labels others : List A} {s t : S}
    (hs : Inv s) (ht : Inv t) (hview : o.view s = o.view t)
    (hsame : labels.filter o.concerns = others.filter o.concerns) :
    o.view (labels.foldl step s) = o.view (others.foldl step t) ∧
      o.outputs step s labels = o.outputs step t others := by
  obtain ⟨hfirst, hfirstOut⟩ := h.purge labels hs ht hview
  obtain ⟨hsecond, hsecondOut⟩ := h.purge others ht ht rfl
  rw [hsame] at hfirst hfirstOut
  exact ⟨hfirst.trans hsecond.symm, hfirstOut.trans hsecondOut.symm⟩

end Botman.Library.NonInterference
