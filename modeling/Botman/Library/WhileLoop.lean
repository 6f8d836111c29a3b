import Mathlib.Data.Nat.Init

/-!
Loops given by the function that runs their body once, and the rules for what
holds when they end.

The relation `EndsIn` has no fuel: a loop that runs forever ends in no state.
-/

namespace Botman.Library.WhileLoop

universe u

variable {S : Type u}

/-- What one round does: the loop goes on, or it is left, by its condition or
by a `break`. -/
inductive Round (S : Type u) where
  | again (s : S)
  | done (s : S)

/-- The loop that is entered in the first state ends in the second one. -/
inductive EndsIn (body : S → Round S) : S → S → Prop where
  | done {s t : S} (hbody : body s = .done t) : EndsIn body s t
  | again {s r t : S} (hbody : body s = .again r) (hrest : EndsIn body r t) : EndsIn body s t

theorem EndsIn.unique {body : S → Round S} {s t r : S} (ht : EndsIn body s t)
    (hr : EndsIn body s r) : t = r := by
  induction ht with
  | done hbody =>
      rcases hr with hbody' | ⟨hbody', -⟩
      · exact Round.done.inj (hbody.symm.trans hbody')
      · rw [hbody] at hbody'
        cases hbody'
  | again hbody _ ih =>
      rcases hr with hbody' | ⟨hbody', hrest⟩
      · rw [hbody] at hbody'
        cases hbody'
      · have hnext := Round.again.inj (hbody.symm.trans hbody')
        subst hnext
        exact ih hrest

/-- Total correctness: a loop whose rounds keep an invariant and let a variant
decrease ends, in a state that the last round led to. -/
theorem exists_endsIn {body : S → Round S} (Inv : S → Prop) {Post : S → Prop} (variant : S → Nat)
    (hdone : ∀ s t, Inv s → body s = .done t → Post t)
    (hagain : ∀ s t, Inv s → body s = .again t → Inv t ∧ variant t < variant s) {s : S}
    (hinit : Inv s) : ∃ t, EndsIn body s t ∧ Post t := by
  induction hvariant : variant s using Nat.strong_induction_on generalizing s with
  | _ n ih =>
      subst hvariant
      cases hbody : body s with
      | done t => exact ⟨t, .done hbody, hdone s t hinit hbody⟩
      | again r =>
          obtain ⟨hinv, hless⟩ := hagain s r hinit hbody
          obtain ⟨t, hends, hpost⟩ := ih (variant r) hless hinv rfl
          exact ⟨t, .again hbody hends, hpost⟩

end Botman.Library.WhileLoop
