import Botman.Library.Transition

/-!
Concurrent requests that read a whole record, change some of its fields in
memory and write the whole record back.

The record is seen through its fields.  A request keeps the fields it does not
write, so what it can lose of the others is what it read of them.
-/

namespace Botman.Library.ReadModifyWrite

open Botman.Library.Transition

universe u v w x y

/-- Where a request stands: before its read, with the record in memory, or done
with what it saved, if anything. -/
inductive Phase (R : Type u) where
  | waiting
  | holding (row : R)
  | finished (saved : Option R)

/-- A request with the record that it has read, if it has. -/
structure Request (Q : Type v) (R : Type u) where
  query : Q
  phase : Phase R

/-- The two accesses of a request to the stored record. -/
inductive Access where
  | read
  | write
  deriving DecidableEq

section Accesses

variable {R : Type u} {Q : Type v}

/-- The two database accesses of a request; `apply` is the record it saves, absent
where it saves none. -/
def access (apply : Q → R → Option R) :
    Access → R → Request Q R → Option (R × Request Q R)
  | .read, stored, request =>
      match request.phase with
      | .waiting => some (stored, { request with phase := .holding stored })
      | _ => none
  | .write, stored, request =>
      match request.phase with
      | .holding row =>
          match apply request.query row with
          | some saved => some (saved, { request with phase := .finished (some saved) })
          | none => some (stored, { request with phase := .finished none })
      | _ => none

/-- What an access does, by its kind. -/
inductive Accesses (apply : Q → R → Option R) :
    Access → R → Request Q R → R → Request Q R → Prop where
  | read {stored : R} {request : Request Q R} (h : request.phase = .waiting) :
      Accesses apply .read stored request stored { request with phase := .holding stored }
  | save {stored row saved : R} {request : Request Q R} (h : request.phase = .holding row)
      (hsaved : apply request.query row = some saved) :
      Accesses apply .write stored request saved { request with phase := .finished (some saved) }
  | skip {stored row : R} {request : Request Q R} (h : request.phase = .holding row)
      (hsaved : apply request.query row = none) :
      Accesses apply .write stored request stored { request with phase := .finished none }

theorem accesses_of_access {apply : Q → R → Option R} {a : Access} {stored after : R}
    {request request' : Request Q R}
    (h : access apply a stored request = some (after, request')) :
    Accesses apply a stored request after request' := by
  unfold access at h
  split at h
  · split at h
    · cases h
      exact .read (by assumption)
    · cases h
  · split at h
    · split at h <;> cases h
      · exact .save (by assumption) (by assumption)
      · exact .skip (by assumption) (by assumption)
    · cases h

end Accesses

section Fields

variable {ι : Type w} [DecidableEq ι] {R : Type u} {Q : Type v} {F : Type x} {V : F → Type y}
variable (get : (f : F) → R → V f) (writes : Q → F → Prop)

/-- The stored record has what every request saved in the fields it writes. -/
def Kept (c : Config ι R (Request Q R)) : Prop :=
  ∀ i saved, (c.locals i).phase = .finished (some saved) →
    ∀ f, writes (c.locals i).query f → get f c.shared = get f saved

/-- No two requests write the same field. -/
def DisjointWrites (c : Config ι R (Request Q R)) : Prop :=
  ∀ i j, i ≠ j → ∀ f, writes (c.locals i).query f → ¬writes (c.locals j).query f

/-- A request writes only while the record it read agrees with the stored one
in the fields that finished requests wrote. -/
def Unstale (c : Config ι R (Request Q R)) (move : ι × Access) : Prop :=
  move.2 = .write → ∀ row, (c.locals move.1).phase = .holding row →
    ∀ j saved, (c.locals j).phase = .finished (some saved) →
      ∀ f, writes (c.locals j).query f → get f row = get f c.shared

variable {get writes} {apply : Q → R → Option R} {c d : Config ι R (Request Q R)}

theorem query_interleave {move : ι × Access}
    (h : interleave (access apply) c move = some d) (i : ι) :
    (d.locals i).query = (c.locals i).query := by
  obtain ⟨j, a⟩ := move
  obtain ⟨s, l, haccess, rfl⟩ := interleave_eq_some_iff.mp h
  by_cases hi : i = j
  · subst hi
    simp only [Function.update_self]
    cases accesses_of_access haccess with
    | read => rfl
    | save => rfl
    | skip => rfl
  · simp only [Function.update_of_ne hi]

theorem disjointWrites_interleave {move : ι × Access} (hdisjoint : DisjointWrites writes c)
    (h : interleave (access apply) c move = some d) : DisjointWrites writes d := by
  intro i j hij f
  rw [query_interleave h i, query_interleave h j]
  exact hdisjoint i j hij f

theorem kept_interleave
    (hframe : ∀ q row saved, apply q row = some saved →
      ∀ f, ¬writes q f → get f saved = get f row)
    {move : ι × Access} (hdisjoint : DisjointWrites writes c) (hkept : Kept get writes c)
    (hguard : Unstale get writes c move) (h : interleave (access apply) c move = some d) :
    Kept get writes d := by
  obtain ⟨i, a⟩ := move
  obtain ⟨s, l, haccess, rfl⟩ := interleave_eq_some_iff.mp h
  intro j saved hj f hf
  by_cases hij : j = i
  · subst hij
    simp only [Function.update_self] at hj
    cases accesses_of_access haccess with
    | read hphase => cases hj
    | save hphase hsaved =>
        cases hj
        rfl
    | skip hphase hsaved => cases hj
  · simp only [Function.update_of_ne hij] at hj hf
    have hold := hkept j saved hj f hf
    cases accesses_of_access haccess with
    | read hphase => exact hold
    | @save _ row _ _ hphase hsaved =>
        have hother : ¬writes (c.locals i).query f := hdisjoint j i hij f hf
        calc
          get f s = get f row := hframe _ row s hsaved f hother
          _ = get f c.shared := hguard rfl row hphase j saved hj f hf
          _ = get f saved := hold
    | skip hphase hsaved => exact hold

/-- Where no request writes back stale values, the stored record has every
change in every state of the run. -/
theorem kept_of_reaches
    (hframe : ∀ q row saved, apply q row = some saved →
      ∀ f, ¬writes q f → get f saved = get f row)
    (hdisjoint : DisjointWrites writes c) (hstart : ∀ i, (c.locals i).phase = .waiting)
    (hrun : Reaches (interleave (access apply)) (Unstale get writes) c d) :
    Kept get writes d := by
  have hinit : DisjointWrites writes c ∧ Kept get writes c := by
    refine ⟨hdisjoint, fun i saved hi => ?_⟩
    rw [hstart i] at hi
    cases hi
  exact (invariant_of_reaches (fun c => DisjointWrites writes c ∧ Kept get writes c)
    (fun _ _ _ hinv hguard hnext => ⟨disjointWrites_interleave hinv.1 hnext,
      kept_interleave hframe hinv.1 hinv.2 hguard hnext⟩) hinit hrun).2

theorem saved_of_reaches (hstart : ∀ i, (c.locals i).phase = .waiting)
    (hrun : Reaches (interleave (access apply)) (Unstale get writes) c d) :
    ∀ i saved, (d.locals i).phase = .finished (some saved) →
      ∃ row, apply (d.locals i).query row = some saved := by
  refine invariant_of_reaches (fun c : Config ι R (Request Q R) => ∀ i saved,
    (c.locals i).phase = .finished (some saved) →
      ∃ row, apply (c.locals i).query row = some saved) ?_ ?_ hrun
  · rintro c ⟨j, a⟩ d hinv - hnext i saved hi
    rw [query_interleave hnext i]
    obtain ⟨s, l, haccess, rfl⟩ := interleave_eq_some_iff.mp hnext
    by_cases hij : i = j
    · subst hij
      simp only [Function.update_self] at hi
      cases accesses_of_access haccess with
      | read hphase => cases hi
      | @save _ row _ _ hphase hsaved =>
          cases hi
          exact ⟨row, hsaved⟩
      | skip hphase hsaved => cases hi
    · simp only [Function.update_of_ne hij] at hi
      exact hinv i saved hi
  · intro i saved hi
    rw [hstart i] at hi
    cases hi

end Fields

end Botman.Library.ReadModifyWrite
