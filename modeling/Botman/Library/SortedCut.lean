import Mathlib.Data.List.Pairwise

/-!
A sorted list that is cut to its first entries before the entries are
selected.

Where the selected entries come first in the order, the cut does not matter for
the selection: it is the cut of the selection.  Two lists with the same selected
values then agree, however they order the entries that have the same value, and
whatever else they contain.
-/

namespace Botman.Library.SortedCut

universe u v w

variable {α : Type u} {β : Type v} {γ : Type w}

/-- What precedes a selected entry is selected. -/
def SelectsDownward (r : α → α → Prop) (select : α → Option γ) : Prop :=
  ∀ a b, r a b → (select b).isSome = true → (select a).isSome = true

/-- What is selected from a sorted list is sorted. -/
def SelectsMonotone (r : α → α → Prop) (s : γ → γ → Prop) (select : α → Option γ) : Prop :=
  ∀ a b, r a b → ∀ x, select a = some x → ∀ y, select b = some y → s x y

theorem filterMap_eq_nil_of_first {r : α → α → Prop} {select : α → Option γ} {a : α}
    {rest : List α} (hdown : SelectsDownward r select) (hfirst : ∀ b ∈ rest, r a b)
    (h : select a = none) : rest.filterMap select = [] := by
  rw [List.filterMap_eq_nil_iff]
  intro b hb
  by_contra hselected
  have hsome := hdown a b (hfirst b hb) (Option.isSome_iff_ne_none.mpr hselected)
  rw [h] at hsome
  cases hsome

theorem filterMap_take {r : α → α → Prop} {select : α → Option γ} {l : List α}
    (hdown : SelectsDownward r select) (hsorted : l.Pairwise r) (count : Nat) :
    (l.take count).filterMap select = (l.filterMap select).take count := by
  induction l generalizing count with
  | nil => simp
  | cons a rest ih =>
      obtain ⟨hfirst, hrest⟩ := List.pairwise_cons.mp hsorted
      cases count with
      | zero => rfl
      | succ count =>
          rw [List.take_succ_cons]
          cases hselect : select a with
          | some x =>
              rw [List.filterMap_cons_some hselect, List.filterMap_cons_some hselect,
                List.take_succ_cons, ih hrest]
          | none =>
              have hnone := filterMap_eq_nil_of_first hdown hfirst hselect
              rw [List.filterMap_cons_none hselect, List.filterMap_cons_none hselect, ih hrest,
                hnone, List.take_nil, List.take_nil]

/-- Two sorted lists with the same selected values have the same selection after
the cut. -/
theorem filterMap_take_eq {r : α → α → Prop} {r' : β → β → Prop} {s : γ → γ → Prop}
    {select : α → Option γ} {select' : β → Option γ} {l : List α} {l' : List β}
    (hdown : SelectsDownward r select) (hdown' : SelectsDownward r' select')
    (hmono : SelectsMonotone r s select) (hmono' : SelectsMonotone r' s select')
    (hantisymm : ∀ x y, s x y → s y x → x = y) (hsorted : l.Pairwise r)
    (hsorted' : l'.Pairwise r') (hperm : (l.filterMap select).Perm (l'.filterMap select'))
    (count : Nat) :
    (l.take count).filterMap select = (l'.take count).filterMap select' := by
  have hvalues : (l.filterMap select).Pairwise s := hsorted.filterMap select hmono
  have hvalues' : (l'.filterMap select').Pairwise s := hsorted'.filterMap select' hmono'
  have hsame : l.filterMap select = l'.filterMap select' :=
    hperm.eq_of_pairwise (fun x y _ _ => hantisymm x y) hvalues hvalues'
  rw [filterMap_take hdown hsorted, filterMap_take hdown' hsorted', hsame]

theorem mergeSort_eq_reverse {le : α → α → Bool}
    (htrans : ∀ a b c, le a b = true → le b c = true → le a c = true)
    (htotal : ∀ a b, (le a b || le b a) = true) {l : List α}
    (hopposite : l.Pairwise fun a b => le a b = false) : l.mergeSort le = l.reverse := by
  have hperm : (l.mergeSort le).Perm l.reverse :=
    (List.mergeSort_perm l le).trans (List.reverse_perm l).symm
  have hreverse : l.reverse.Pairwise fun a b => le a b = true := by
    rw [List.pairwise_reverse]
    refine hopposite.imp fun {a b} hab => ?_
    simpa [hab] using htotal a b
  -- two entries that the order does not tell apart are the same entry
  have hsymm : Std.Symm fun a b => le a b = true → le b a = true → a = b :=
    ⟨fun a b h hba hab => (h hab hba).symm⟩
  have hequal : l.Pairwise fun a b => le a b = true → le b a = true → a = b := by
    refine hopposite.imp fun {a b} hfalse htrue => ?_
    rw [hfalse] at htrue
    cases htrue
  refine hperm.eq_of_pairwise ?_ (List.pairwise_mergeSort htrans htotal l) hreverse
  intro a b ha hb
  exact hequal.forall_of_forall (fun _ _ _ _ => rfl) (List.mem_mergeSort.mp ha)
    (List.mem_reverse.mp hb)

end Botman.Library.SortedCut
