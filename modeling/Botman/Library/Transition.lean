import Mathlib.Algebra.BigOperators.Group.Finset.Piecewise
import Mathlib.Data.Fintype.Basic
import Mathlib.Data.List.Flatten
import Mathlib.Logic.Relation
import Mathlib.Logic.Function.Basic

/-!
Labelled transition systems given by a partial next-state function, and the
interleaving of any number of processes over one shared state.

A guard restricts which labels may be taken from which state.  A law about
every run is proved for the guarded system by one inductive invariant; the
unguarded system is the one whose guard always holds.
-/

namespace Botman.Library.Transition

universe u v w x

section Runs

variable {S : Type u} {A : Type v}

/-- One step of the system `next` by a label that the guard admits. -/
def StepBy (next : S → A → Option S) (guard : S → A → Prop) (s t : S) : Prop :=
  ∃ a, guard s a ∧ next s a = some t

/-- The states that runs from `s` whose steps are all admitted lead to. -/
def Reaches (next : S → A → Option S) (guard : S → A → Prop) : S → S → Prop :=
  Relation.ReflTransGen (StepBy next guard)

/-- The guard of the unguarded system. -/
def anyStep : S → A → Prop := fun _ _ => True

/-- The induction rule for runs: what holds at the start and is kept by every
admitted step holds in every state reached. -/
theorem invariant_of_reaches {next : S → A → Option S} {guard : S → A → Prop}
    {s t : S} (Inv : S → Prop)
    (hstep : ∀ s a t, Inv s → guard s a → next s a = some t → Inv t)
    (hinit : Inv s) (hrun : Reaches next guard s t) : Inv t := by
  induction hrun with
  | refl => exact hinit
  | tail _ hlast ih =>
      obtain ⟨a, hguard, hnext⟩ := hlast
      exact hstep _ a _ ih hguard hnext

theorem Reaches.head {next : S → A → Option S} {guard : S → A → Prop} {s t r : S} {a : A}
    (hguard : guard s a) (hnext : next s a = some t) (hrest : Reaches next guard t r) :
    Reaches next guard s r :=
  Relation.ReflTransGen.head ⟨a, hguard, hnext⟩ hrest

theorem Reaches.mono {next : S → A → Option S} {guard weaker : S → A → Prop} {s t : S}
    (hguard : ∀ s a, guard s a → weaker s a) (hrun : Reaches next guard s t) :
    Reaches next weaker s t := by
  refine Relation.ReflTransGen.mono ?_ _ _ hrun
  rintro p q ⟨a, ha, hstep⟩
  exact ⟨a, hguard p a ha, hstep⟩

theorem Reaches.mono_of_invariant {next : S → A → Option S} {guard weaker : S → A → Prop}
    {s t : S} (Inv : S → Prop)
    (hstep : ∀ s a t, Inv s → guard s a → next s a = some t → Inv t)
    (hguard : ∀ s a, Inv s → guard s a → weaker s a) (hinit : Inv s)
    (hrun : Reaches next guard s t) : Reaches next weaker s t := by
  refine (invariant_of_reaches (fun r => Inv r ∧ Reaches next weaker s r) ?_
    ⟨hinit, Relation.ReflTransGen.refl⟩ hrun).2
  rintro r a q ⟨hr, hreach⟩ ha hnext
  exact ⟨hstep r a q hr ha hnext, hreach.tail ⟨a, hguard r a hr ha, hnext⟩⟩

instance (s : S) (a : A) : Decidable (anyStep s a) :=
  inferInstanceAs (Decidable True)

/-- Execute a list of labels in order, as far as the guard admits them. -/
def replay (next : S → A → Option S) (guard : S → A → Prop)
    [∀ s a, Decidable (guard s a)] : S → List A → Option S
  | s, [] => some s
  | s, a :: rest =>
      if guard s a then (next s a).bind fun t => replay next guard t rest else none

theorem reaches_of_replay {next : S → A → Option S} {guard : S → A → Prop}
    [∀ s a, Decidable (guard s a)] {s t : S} {labels : List A}
    (h : replay next guard s labels = some t) : Reaches next guard s t := by
  induction labels generalizing s with
  | nil =>
      have hst : s = t := by simpa [replay] using h
      subst hst
      exact Relation.ReflTransGen.refl
  | cons a rest ih =>
      unfold replay at h
      split at h
      · rename_i hguard
        obtain ⟨r, hr, hrest⟩ := Option.bind_eq_some_iff.mp h
        exact Relation.ReflTransGen.head ⟨a, hguard, hr⟩ (ih hrest)
      · cases h

theorem countP_le_of_replay {next : S → A → Option S} {guard : S → A → Prop}
    [∀ s a, Decidable (guard s a)] (Inv : S → Prop) (store : S → Nat) (kind : A → Bool)
    (hstep : ∀ s a t, Inv s → next s a = some t →
      Inv t ∧ store t + (if kind a then 1 else 0) ≤ store s)
    {labels : List A} {s t : S} (hinit : Inv s) (h : replay next guard s labels = some t) :
    labels.countP kind + store t ≤ store s := by
  induction labels generalizing s with
  | nil =>
      have hst : s = t := by simpa [replay] using h
      simp [hst]
  | cons a rest ih =>
      unfold replay at h
      split at h
      · obtain ⟨r, hr, hrest⟩ := Option.bind_eq_some_iff.mp h
        obtain ⟨hinv, hfirst⟩ := hstep s a r hinit hr
        have hlater := ih hinv hrest
        rw [List.countP_cons]
        omega
      · cases h

theorem exists_reaches_of_replay {next : S → A → Option S} {guard : S → A → Prop}
    [∀ s a, Decidable (guard s a)] {P : S → Prop} [DecidablePred P] {s : S}
    (labels : List A)
    (h : ((replay next guard s labels).any fun t => decide (P t)) = true) :
    ∃ t, Reaches next guard s t ∧ P t := by
  obtain ⟨t, ht, hP⟩ := (Option.any_eq_true _ _).mp h
  exact ⟨t, reaches_of_replay ht, of_decide_eq_true hP⟩

/-- The labels of a run of a total system, each with the state it is met in. -/
def visits (step : S → A → S) : S → List A → List (S × A)
  | _, [] => []
  | s, a :: rest => (s, a) :: visits step (step s a) rest

theorem invariant_of_mem_visits {step : S → A → S} {Inv : S → Prop} {labels : List A} {s : S}
    (hstep : ∀ s, ∀ a ∈ labels, Inv s → Inv (step s a)) (hinit : Inv s) :
    ∀ visit ∈ visits step s labels, Inv visit.1 ∧ visit.2 ∈ labels := by
  induction labels generalizing s with
  | nil => simp [visits]
  | cons a rest ih =>
      intro visit hvisit
      rcases List.mem_cons.mp hvisit with rfl | hvisit
      · exact ⟨hinit, List.mem_cons_self⟩
      · have hrest := ih (fun s b hb => hstep s b (List.mem_cons_of_mem _ hb))
          (hstep s a List.mem_cons_self hinit) visit hvisit
        exact ⟨hrest.1, List.mem_cons_of_mem _ hrest.2⟩

theorem snd_mem_of_mem_visits {step : S → A → S} {labels : List A} {s : S} {visit : S × A}
    (h : visit ∈ visits step s labels) : visit.2 ∈ labels :=
  (@invariant_of_mem_visits S A step (fun _ => True) labels s (fun _ _ _ => id) trivial visit h).2

theorem rel_of_mem_visits {step : S → A → S} (R : S → S → Prop) (hrefl : ∀ s, R s s)
    (htrans : ∀ s t r, R s t → R t r → R s r) (hstep : ∀ s a, R s (step s a)) (labels : List A)
    (s : S) :
    R s (labels.foldl step s) ∧
      ∀ visit ∈ visits step s labels, R visit.1 (labels.foldl step s) := by
  induction labels generalizing s with
  | nil => exact ⟨hrefl s, by simp [visits]⟩
  | cons a rest ih =>
      obtain ⟨hnext, hrest⟩ := ih (step s a)
      have hfirst := htrans _ _ _ (hstep s a) hnext
      exact ⟨hfirst, List.forall_mem_cons.mpr ⟨hfirst, hrest⟩⟩

/-- If what is asked of a visit entails an invariant of the next state, and holds
under the invariant exactly of the good visits, it holds all along a run exactly
when all visits are good. -/
theorem kept_visits_iff {step : S → A → S} {Kept Good : S × A → Prop} (Inv : S → Prop)
    (hnext : ∀ s a, Kept (s, a) → Inv (step s a))
    (hstep : ∀ s a, Inv s → (Kept (s, a) ↔ Good (s, a))) (labels : List A) {s : S}
    (hinit : Inv s) :
    (∀ visit ∈ visits step s labels, Kept visit) ↔ ∀ visit ∈ visits step s labels, Good visit := by
  induction labels generalizing s with
  | nil => simp [visits]
  | cons a rest ih =>
      rw [visits, List.forall_mem_cons, List.forall_mem_cons]
      exact (and_congr_right fun hkept => ih (hnext s a hkept)).trans
        (and_congr_left' (hstep s a hinit))

theorem invariant_visits_iff {step : S → A → S} {Good : S × A → Prop} (Inv : S → Prop)
    (hstep : ∀ s a, Inv s → (Inv (step s a) ↔ Good (s, a))) (labels : List A) {s : S}
    (hinit : Inv s) :
    (∀ visit ∈ visits step s labels, Inv (step visit.1 visit.2)) ↔
      ∀ visit ∈ visits step s labels, Good visit :=
  kept_visits_iff Inv (fun _ _ => id) hstep labels hinit

theorem related_of_mem_visits {step : S → A → S} {R : S × A → S × A → Prop}
    (Kept : S × A → S → Prop) (hrefl : ∀ visit, R visit visit)
    (hsymm : ∀ visit later, R visit later → R later visit)
    (hleft : ∀ s a, Kept (s, a) (step s a))
    (hkept : ∀ visit s a, Kept visit s → Kept visit (step s a))
    (hrelated : ∀ visit s a, Kept visit s → R visit (s, a)) (labels : List A) (s : S) :
    ∀ visit ∈ visits step s labels, ∀ later ∈ visits step s labels, R visit later := by
  induction labels generalizing s with
  | nil => simp [visits]
  | cons a rest ih =>
      have hhead : ∀ later ∈ visits step (step s a) rest, R (s, a) later := by
        intro later hlater
        have hinv := invariant_of_mem_visits (fun t b _ => hkept (s, a) t b) (hleft s a)
          later hlater
        exact hrelated (s, a) later.1 later.2 hinv.1
      intro visit hvisit later hlater
      rcases List.mem_cons.mp hvisit with rfl | hvisit
      · rcases List.mem_cons.mp hlater with rfl | hlater
        · exact hrefl _
        · exact hhead later hlater
      · rcases List.mem_cons.mp hlater with rfl | hlater
        · exact hsymm _ _ (hhead visit hvisit)
        · exact ih (step s a) visit hvisit later hlater

theorem log_foldl {B : Type w} {step : S → A → S} {log : S → List B} {written : S × A → List B}
    (hstep : ∀ s a, log (step s a) = log s ++ written (s, a)) (labels : List A) (s : S) :
    log (labels.foldl step s) = log s ++ (visits step s labels).flatMap written := by
  induction labels generalizing s with
  | nil => simp [visits]
  | cons a rest ih => rw [List.foldl_cons, ih, hstep, visits, List.flatMap_cons, List.append_assoc]

theorem latest_foldl {B : Type w} {step : S → A → S} {produced : S × A → Option B}
    (Inv : S → Option B → Prop)
    (hstep : ∀ s a last, Inv s last → Inv (step s a) ((produced (s, a)).or last))
    (labels : List A) {s : S} {last : Option B} (hinit : Inv s last) :
    Inv (labels.foldl step s)
      (((visits step s labels).filterMap produced).getLast?.or last) := by
  induction labels generalizing s last with
  | nil => exact hinit
  | cons a rest ih =>
      have hrest := ih (hstep s a last hinit)
      rw [List.foldl_cons, visits, List.filterMap_cons]
      cases hproduced : produced (s, a) with
      | none => simpa [hproduced] using hrest
      | some b =>
          rw [hproduced] at hrest
          rw [List.getLast?_cons]
          cases hlast : ((visits step (step s a) rest).filterMap produced).getLast? with
          | none => simpa [hlast] using hrest
          | some c => simpa [hlast] using hrest

theorem flatMap_eq_iff_of_sublist {B : Type w} {written owed : A → List B} {labels : List A}
    (h : ∀ a ∈ labels, (written a).Sublist (owed a)) :
    labels.flatMap written = labels.flatMap owed ↔ ∀ a ∈ labels, written a = owed a := by
  induction labels with
  | nil => simp
  | cons a rest ih =>
      obtain ⟨ha, hrest⟩ := List.forall_mem_cons.mp h
      rw [List.flatMap_cons, List.flatMap_cons, List.forall_mem_cons, ← ih hrest]
      constructor
      · intro heq
        have hlater : (rest.flatMap written).length ≤ (rest.flatMap owed).length :=
          (List.Sublist.flatMap_right rest hrest).length_le
        have hlength := congrArg List.length heq
        rw [List.length_append, List.length_append] at hlength
        have hsame : written a = owed a := by
          apply ha.eq_of_length
          have := ha.length_le
          omega
        rw [hsame] at heq
        exact ⟨hsame, List.append_cancel_left heq⟩
      · rintro ⟨hsame, hlater⟩
        rw [hsame, hlater]

end Runs

section Interleaving

variable {ι : Type u} {S : Type v} {L : Type w} {A : Type x}

/-- A shared state and the local state of every process. -/
structure Config (ι : Type u) (S : Type v) (L : Type w) where
  shared : S
  locals : ι → L

variable [DecidableEq ι]

/-- One atomic action of process `i`: it sees the shared state and its own
local state, and changes nothing else. -/
def interleave (act : A → S → L → Option (S × L)) (c : Config ι S L)
    (move : ι × A) : Option (Config ι S L) :=
  (act move.2 c.shared (c.locals move.1)).map fun out =>
    { shared := out.1, locals := Function.update c.locals move.1 out.2 }

theorem interleave_eq_some_iff {act : A → S → L → Option (S × L)}
    {c d : Config ι S L} {move : ι × A} :
    interleave act c move = some d ↔
      ∃ s l, act move.2 c.shared (c.locals move.1) = some (s, l) ∧
        d = { shared := s, locals := Function.update c.locals move.1 l } := by
  simp only [interleave, Option.map_eq_some_iff, Prod.exists]
  constructor
  · rintro ⟨s, l, hact, rfl⟩
    exact ⟨s, l, hact, rfl⟩
  · rintro ⟨s, l, hact, rfl⟩
    exact ⟨s, l, hact, rfl⟩

/-- What the shared state and every process keep through each action of one process
holds all along a run. -/
theorem invariant_of_interleave {act : A → S → L → Option (S × L)}
    {guard : Config ι S L → ι × A → Prop} {start c : Config ι S L} (Global : S → Prop)
    (Local : L → Prop)
    (hact : ∀ (c : Config ι S L) (i : ι) (a : A) (s : S) (l : L), Global c.shared →
      Local (c.locals i) → guard c (i, a) → act a c.shared (c.locals i) = some (s, l) →
      Global s ∧ Local l)
    (hshared : Global start.shared) (hlocals : ∀ i, Local (start.locals i))
    (hrun : Reaches (interleave act) guard start c) :
    Global c.shared ∧ ∀ i, Local (c.locals i) := by
  refine invariant_of_reaches (fun c => Global c.shared ∧ ∀ i, Local (c.locals i)) ?_
    ⟨hshared, hlocals⟩ hrun
  rintro c ⟨i, a⟩ d ⟨hglobal, hlocal⟩ hguard hnext
  obtain ⟨s, l, hstep, rfl⟩ := interleave_eq_some_iff.mp hnext
  obtain ⟨hs, hl⟩ := hact c i a s l hglobal (hlocal i) hguard hstep
  refine ⟨hs, fun j => ?_⟩
  by_cases hj : j = i
  · subst hj
    simpa using hl
  · simpa [hj] using hlocal j

/-- The rule of rely and guarantee: what a process knows of the shared state is stable
under what every action guarantees, and its own actions renew it. -/
theorem invariant_of_guarantee {act : A → S → L → Option (S × L)}
    {guard : Config ι S L → ι × A → Prop} {start c : Config ι S L} (Global : S → Prop)
    (Knows : ι → S → L → Prop) (Guarantee : S → S → Prop)
    (hstable : ∀ i s t l, Guarantee s t → Knows i s l → Knows i t l)
    (hact : ∀ (c : Config ι S L) (i : ι) (a : A) (t : S) (m : L), Global c.shared →
      Knows i c.shared (c.locals i) → guard c (i, a) →
      act a c.shared (c.locals i) = some (t, m) →
      Global t ∧ Guarantee c.shared t ∧ Knows i t m)
    (hshared : Global start.shared) (hlocals : ∀ i, Knows i start.shared (start.locals i))
    (hrun : Reaches (interleave act) guard start c) :
    Global c.shared ∧ ∀ i, Knows i c.shared (c.locals i) := by
  refine invariant_of_reaches
    (fun c => Global c.shared ∧ ∀ i, Knows i c.shared (c.locals i)) ?_
    ⟨hshared, hlocals⟩ hrun
  rintro c ⟨i, a⟩ d ⟨hglobal, hknows⟩ hguard hnext
  obtain ⟨t, m, hstep, rfl⟩ := interleave_eq_some_iff.mp hnext
  obtain ⟨ht, hguarantee, hm⟩ := hact c i a t m hglobal (hknows i) hguard hstep
  refine ⟨ht, fun j => ?_⟩
  by_cases hj : j = i
  · subst hj
    simpa using hm
  · simpa [hj] using hstable j _ _ _ hguarantee (hknows j)

/-- The processes with a watch each, which is set at their actions of a kind. -/
def stamped {T : Type*} (clock : S → T) (kind : A → Bool) (act : A → S → L → Option (S × L))
    (a : A) (s : S) (l : L × T) : Option (S × L × T) :=
  (act a s l.1).map fun out => (out.1, out.2, if kind a then clock s else l.2)

theorem act_of_stamped {T : Type*} {clock : S → T} {kind : A → Bool}
    {act : A → S → L → Option (S × L)} {a : A} {s t : S} {l m : L × T}
    (h : stamped clock kind act a s l = some (t, m)) :
    act a s l.1 = some (t, m.1) ∧ m.2 = if kind a then clock s else l.2 := by
  obtain ⟨out, hout, heq⟩ := Option.map_eq_some_iff.mp h
  cases heq
  exact ⟨hout, rfl⟩

theorem countP_le_of_interleave {act : A → S → L → Option (S × L)}
    {guard : Config ι S L → ι × A → Prop} [∀ c move, Decidable (guard c move)]
    {start c : Config ι S L} {schedule : List (ι × A)} (Local : L → Prop) (store : L → Nat)
    (kind : A → Bool)
    (hact : ∀ (a : A) (s t : S) (l m : L), Local l → act a s l = some (t, m) →
      Local m ∧ store m + (if kind a then 1 else 0) ≤ store l)
    (hlocals : ∀ j, Local (start.locals j))
    (h : replay (interleave act) guard start schedule = some c) (i : ι) :
    schedule.countP (fun move => move.1 = i ∧ kind move.2 = true) ≤ store (start.locals i) := by
  have hbound := countP_le_of_replay (fun c => ∀ j, Local (c.locals j))
    (fun c => store (c.locals i)) (fun move => move.1 = i ∧ kind move.2 = true) ?_ hlocals h
  · omega
  rintro c ⟨j, a⟩ d hc hnext
  obtain ⟨t, m, hstep, rfl⟩ := interleave_eq_some_iff.mp hnext
  obtain ⟨hlocal, hstore⟩ := hact a _ t _ m (hc j) hstep
  refine ⟨fun k => ?_, ?_⟩
  · by_cases hk : k = j
    · subst hk
      simpa using hlocal
    · simpa [hk] using hc k
  · by_cases hj : j = i
    · subst hj
      simpa using hstore
    · simp [hj, Ne.symm hj]

/-- An action keeps the invariant of its process and takes from the stores of its kinds. -/
structure Spends {κ : Type*} (Local : L → Prop) (store : κ → L → Nat) (kind : κ → A → Bool)
    (a : A) (l m : L) : Prop where
  kept : Local m
  spent : ∀ k, store k m + (if kind k a then 1 else 0) ≤ store k l

/-- Where every action spends, the stores bound the actions of a process in a schedule, and a
process that is stuck is done if the others can go on. -/
theorem spends_of_interleave {κ : Type*} {act : A → S → L → Option (S × L)}
    {guard : Config ι S L → ι × A → Prop} [∀ c move, Decidable (guard c move)]
    {start c : Config ι S L} {schedule : List (ι × A)} {Local Done : L → Prop}
    {store : κ → L → Nat} {kind : κ → A → Bool} {own : A → Bool}
    (hact : ∀ (a : A) (s t : S) (l m : L), Local l → act a s l = some (t, m) →
      Spends Local store kind a l m)
    (hmoves : ∀ s l, ¬ Done l → ∃ a, own a = true ∧ (act a s l).isSome = true)
    (hlocals : ∀ j, Local (start.locals j))
    (h : replay (interleave act) guard start schedule = some c) (i : ι) :
    Local (c.locals i) ∧
      (∀ k, schedule.countP (fun move => move.1 = i ∧ kind k move.2 = true) ≤
        store k (start.locals i)) ∧
      ((∀ a, own a = true → interleave act c (i, a) = none) → Done (c.locals i)) := by
  refine ⟨?_, fun k => ?_, fun hstuck => ?_⟩
  · exact (invariant_of_interleave (fun _ => True) Local
      (fun _ _ a _ _ _ hl _ hstep => ⟨trivial, (hact a _ _ _ _ hl hstep).kept⟩) trivial hlocals
      (reaches_of_replay h)).2 i
  · exact countP_le_of_interleave Local (store k) (kind k)
      (fun a s t l m hl hstep =>
        ⟨(hact a s t l m hl hstep).kept, (hact a s t l m hl hstep).spent k⟩) hlocals h i
  · by_contra hopen
    obtain ⟨a, hown, hpossible⟩ := hmoves c.shared (c.locals i) hopen
    have hnone := hstuck a hown
    simp only [interleave, Option.map_eq_none_iff] at hnone
    rw [hnone] at hpossible
    cases hpossible

/-- The number of processes whose local state passes a test. -/
def population [Fintype ι] (test : L → Bool) (locals : ι → L) : Nat :=
  (Finset.univ.filter fun i => test (locals i) = true).card

theorem population_update [Fintype ι] (test : L → Bool) (locals : ι → L) (i : ι) (l : L) :
    population test (Function.update locals i l) + (if test (locals i) then 1 else 0) =
      population test locals + (if test l then 1 else 0) := by
  have hothers : ∀ j ∈ Finset.univ.erase i,
      (if test (Function.update locals i l j) = true then 1 else 0) =
        if test (locals j) = true then 1 else 0 := by
    intro j hj
    rw [Function.update_of_ne (Finset.ne_of_mem_erase hj)]
  unfold population
  rw [Finset.card_filter, Finset.card_filter, ← Finset.add_sum_erase _ _ (Finset.mem_univ i),
    ← Finset.add_sum_erase _ (fun j => if test (locals j) = true then 1 else 0)
      (Finset.mem_univ i), Finset.sum_congr rfl hothers, Function.update_self]
  omega

end Interleaving

end Botman.Library.Transition
