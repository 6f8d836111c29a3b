import Botman.Library.PythonValue
import Mathlib.Data.List.Basic
import Mathlib.Data.List.Infix

/-!
A text that arrives in reads and is split into lines read by read.

The boundaries of the reads become symbols of their own, so that a read
boundary and a separator are treated alike: both end a piece.  Positions count
the characters before a boundary.
-/

namespace Botman.Library.CutText

open Botman.Library.PythonValue

universe u

variable {α : Type u}

/-- A character, or the end of a read. -/
abbrev Token (α : Type u) := Option α

/-- Every read ends with a boundary. -/
def tokens (reads : List (List α)) : List (Token α) :=
  reads.flatMap fun r => r.map some ++ [none]

/-- The text without the boundaries. -/
def chars (t : List (Token α)) : List α :=
  t.filterMap id

@[simp] theorem chars_nil : chars ([] : List (Token α)) = [] := rfl

@[simp] theorem chars_none (t : List (Token α)) : chars (none :: t) = chars t := rfl

@[simp] theorem chars_some (c : α) (t : List (Token α)) :
    chars (some c :: t) = c :: chars t := rfl

@[simp] theorem chars_append (s t : List (Token α)) : chars (s ++ t) = chars s ++ chars t :=
  List.filterMap_append

@[simp] theorem chars_map_some (l : List α) : chars (l.map some) = l := by
  induction l with
  | nil => rfl
  | cons c l ih => simp [ih]

theorem tokens_cons (r : List α) (reads : List (List α)) :
    tokens (r :: reads) = r.map some ++ none :: tokens reads := by
  simp [tokens]

theorem chars_tokens (reads : List (List α)) : chars (tokens reads) = reads.flatten := by
  induction reads with
  | nil => rfl
  | cons r reads ih =>
      rw [tokens_cons]
      simp [ih]

/-- The positions of the boundaries in the text. -/
def cuts (n : Nat) : List (List α) → List Nat
  | [] => []
  | r :: reads => (n + r.length) :: cuts (n + r.length) reads

/-- The positions of the boundaries of a token list. -/
def boundaries (n : Nat) : List (Token α) → List Nat
  | [] => []
  | none :: t => n :: boundaries n t
  | some _ :: t => boundaries (n + 1) t

theorem boundaries_append (n : Nat) (s t : List (Token α)) :
    boundaries n (s ++ t) = boundaries n s ++ boundaries (n + (chars s).length) t := by
  induction s generalizing n with
  | nil => rfl
  | cons x s ih =>
      cases x with
      | none => simp [boundaries, ih]
      | some c =>
          have hlength : n + 1 + (chars s).length = n + ((chars s).length + 1) := by omega
          simp [boundaries, ih, hlength]

theorem boundaries_map_some (n : Nat) (l : List α) : boundaries n (l.map some) = [] := by
  induction l generalizing n with
  | nil => rfl
  | cons c l ih => exact ih (n + 1)

theorem boundaries_tokens (n : Nat) (reads : List (List α)) :
    boundaries n (tokens reads) = cuts n reads := by
  induction reads generalizing n with
  | nil => rfl
  | cons r reads ih =>
      rw [tokens_cons, boundaries_append, boundaries_map_some, chars_map_some]
      simp [boundaries, cuts, ih]

theorem boundaries_bounds {n p : Nat} {t : List (Token α)} (h : p ∈ boundaries n t) :
    n ≤ p ∧ p ≤ n + (chars t).length := by
  induction t generalizing n with
  | nil => cases h
  | cons x t ih =>
      cases x with
      | none =>
          rcases List.mem_cons.mp h with rfl | h
          · exact ⟨Nat.le_refl _, Nat.le_add_right _ _⟩
          · exact ih h
      | some c =>
          have hbounds := ih h
          rw [chars_some, List.length_cons]
          omega

section Pieces

variable [DecidableEq α] (sep : α)

/-- The pieces between separators and boundaries. -/
def pieces : List (Token α) → List (List α)
  | [] => [[]]
  | none :: t => [] :: pieces t
  | some c :: t =>
      if c = sep then [] :: pieces t
      else
        match pieces t with
        | [] => [[c]]
        | piece :: rest => (c :: piece) :: rest

theorem pieces_ne_nil (t : List (Token α)) : pieces sep t ≠ [] := by
  cases t with
  | nil => simp [pieces]
  | cons x t =>
      cases x with
      | none => simp [pieces]
      | some c =>
          unfold pieces
          split
          · simp
          · split <;> simp

theorem pieces_some {c : α} (h : c ≠ sep) {t : List (Token α)} {piece : List α}
    {rest : List (List α)} (ht : pieces sep t = piece :: rest) :
    pieces sep (some c :: t) = (c :: piece) :: rest := by
  simp [pieces, h, ht]

theorem pieces_append {x : Token α} (hx : x = none ∨ x = some sep)
    (s t : List (Token α)) :
    pieces sep (s ++ x :: t) = pieces sep s ++ pieces sep t := by
  induction s with
  | nil => rcases hx with rfl | rfl <;> simp [pieces]
  | cons y s ih =>
      cases y with
      | none => simp [pieces, ih]
      | some c =>
          by_cases hc : c = sep
          · simp [pieces, hc, ih]
          · cases hs : pieces sep s with
            | nil => exact absurd hs (pieces_ne_nil sep s)
            | cons piece rest =>
                have hst : pieces sep (s ++ x :: t) = piece :: (rest ++ pieces sep t) := by
                  rw [ih, hs, List.cons_append]
                rw [List.cons_append, pieces_some sep hc hst, pieces_some sep hc hs,
                  List.cons_append]

theorem pieces_map_some {l : List α} (h : sep ∉ l) : pieces sep (l.map some) = [l] := by
  induction l with
  | nil => rfl
  | cons c l ih =>
      have hc : c ≠ sep := fun heq => h (by simp [heq])
      exact pieces_some sep hc (ih fun hmem => h (by simp [hmem]))

theorem pieces_of_chars_nil {t : List (Token α)} (h : chars t = []) :
    ∀ x ∈ pieces sep t, x = [] := by
  induction t with
  | nil => simp [pieces]
  | cons y t ih =>
      cases y with
      | none =>
          rintro x (_ | ⟨_, hx⟩)
          · rfl
          · exact ih h x hx
      | some c => cases h

theorem pieces_isInfix (t : List (Token α)) :
    ∃ piece rest, pieces sep t = piece :: rest ∧ piece <+: chars t ∧
      ∀ x ∈ rest, x <:+: chars t := by
  induction t with
  | nil => exact ⟨[], [], rfl, List.prefix_refl _, by simp⟩
  | cons y t ih =>
      obtain ⟨piece, rest, hpieces, hpiece, hrest⟩ := ih
      have hall : ∀ x ∈ pieces sep t, x <:+: chars t := by
        rw [hpieces]
        exact List.forall_mem_cons.mpr ⟨hpiece.isInfix, hrest⟩
      cases y with
      | none => exact ⟨[], pieces sep t, rfl, List.nil_prefix, hall⟩
      | some c =>
          have hlater : ∀ x, x <:+: chars t → x <:+: c :: chars t := fun x hx =>
            hx.trans (List.suffix_cons c (chars t)).isInfix
          by_cases hc : c = sep
          · refine ⟨[], pieces sep t, by simp [pieces, hc], List.nil_prefix, ?_⟩
            intro x hx
            exact hlater x (hall x hx)
          · refine ⟨c :: piece, rest, pieces_some sep hc hpieces, ?_, ?_⟩
            · exact List.cons_prefix_cons.mpr ⟨rfl, hpiece⟩
            · intro x hx
              exact hlater x (hrest x hx)

theorem isInfix_of_mem_pieces (t : List (Token α)) : ∀ x ∈ pieces sep t, x <:+: chars t := by
  obtain ⟨piece, rest, hpieces, hpiece, hrest⟩ := pieces_isInfix sep t
  rw [hpieces]
  exact List.forall_mem_cons.mpr ⟨hpiece.isInfix, hrest⟩

theorem pieces_whole {line : List α} (h : sep ∉ line) {b : List (Token α)}
    (hb : chars b = []) :
    ∃ after, pieces sep (line.map some ++ b) = line :: after ∧ ∀ x ∈ after, x = [] := by
  rcases b with _ | ⟨_ | d, b⟩
  · exact ⟨[], by simp [pieces_map_some sep h], by simp⟩
  · refine ⟨pieces sep b, ?_, pieces_of_chars_nil sep hb⟩
    rw [pieces_append sep (Or.inl rfl), pieces_map_some sep h, List.singleton_append]
  · cases hb

theorem pieces_cut {p : List α} (h : sep ∉ p) (rest : List (Token α)) :
    pieces sep (p.map some ++ none :: rest) = p :: pieces sep rest := by
  rw [pieces_append sep (Or.inl rfl), pieces_map_some sep h, List.singleton_append]

end Pieces

theorem whole_or_cut {c : α} (t : List (Token α)) :
    (∃ b, some c :: t = (c :: chars t).map some ++ b ∧ chars b = []) ∨
      ∃ p q rest, c :: chars t = p ++ q ∧ p ≠ [] ∧ q ≠ [] ∧
        some c :: t = p.map some ++ none :: rest ∧ chars rest = q := by
  induction t generalizing c with
  | nil => exact Or.inl ⟨[], by simp, rfl⟩
  | cons y t ih =>
      cases y with
      | none =>
          by_cases hnil : chars t = []
          · exact Or.inl ⟨none :: t, by simp [hnil], hnil⟩
          · exact Or.inr ⟨[c], chars t, t, rfl, by simp, hnil, rfl, rfl⟩
      | some d =>
          rcases ih (c := d) with ⟨b, hb, hnil⟩ | ⟨p, q, rest, hline, hp, hq, ht, hrest⟩
          · refine Or.inl ⟨b, ?_, hnil⟩
            rw [chars_some, hb]
            rfl
          · refine Or.inr ⟨c :: p, q, rest, ?_, by simp, hq, ?_, hrest⟩
            · rw [chars_some, hline, List.cons_append]
            · rw [ht]
              simp

/-- A boundary falls strictly inside the `length` characters from `start`. -/
def CutInside (positions : List Nat) (start length : Nat) : Prop :=
  ∃ p ∈ positions, start < p ∧ p < start + length

instance (positions : List Nat) (start length : Nat) :
    Decidable (CutInside positions start length) :=
  inferInstanceAs (Decidable (∃ p ∈ positions, start < p ∧ p < start + length))

theorem cutInside_append {first second : List Nat} {start length : Nat} :
    CutInside (first ++ second) start length ↔
      CutInside first start length ∨ CutInside second start length := by
  simp [CutInside, or_and_right, exists_or]

theorem not_cutInside_of_before {positions : List Nat} {start length : Nat}
    (h : ∀ p ∈ positions, p ≤ start) : ¬ CutInside positions start length := by
  rintro ⟨p, hp, hstart, -⟩
  have := h p hp
  omega

theorem not_cutInside_of_after {positions : List Nat} {start length : Nat}
    (h : ∀ p ∈ positions, start + length ≤ p) : ¬ CutInside positions start length := by
  rintro ⟨p, hp, -, hend⟩
  have := h p hp
  omega

theorem not_cutInside_whole (line : List α) (b : List (Token α)) (n : Nat) :
    ¬ CutInside (boundaries n (line.map some ++ b)) n line.length := by
  rw [boundaries_append, boundaries_map_some, chars_map_some, List.nil_append]
  apply not_cutInside_of_after
  intro k hk
  exact (boundaries_bounds hk).1

theorem cutInside_cut {p q : List α} (hp : p ≠ []) (hq : q ≠ []) (rest : List (Token α))
    (n : Nat) : CutInside (boundaries n (p.map some ++ none :: rest)) n (p ++ q).length := by
  rw [boundaries_append, boundaries_map_some, chars_map_some, List.length_append]
  have hp0 := List.length_pos_iff.mpr hp
  have hq0 := List.length_pos_iff.mpr hq
  exact ⟨n + p.length, by simp [boundaries], by omega, by omega⟩

theorem pieces_line [DecidableEq α] (sep : α) {line : List α} (hline : line ≠ [])
    (hsep : sep ∉ line) {t : List (Token α)} (ht : chars t = line) (n : Nat) :
    (¬ CutInside (boundaries n t) n line.length ∧
      ∃ before after, pieces sep t = before ++ line :: after ∧
        (∀ x ∈ before, x = []) ∧ ∀ x ∈ after, x = []) ∨
    (CutInside (boundaries n t) n line.length ∧
      ∃ before p q after, line = p ++ q ∧ p ≠ [] ∧ q ≠ [] ∧
        pieces sep t = before ++ p :: after ∧ (∀ x ∈ before, x = []) ∧
        ∀ x ∈ after, x <:+: q) := by
  -- the line is a piece between empty ones, or a boundary falls into it
  -- Leading boundaries only add empty pieces in front.
  induction t with
  | nil => exact absurd ht.symm hline
  | cons y t ih =>
      cases y with
      | none =>
          rcases ih ht with ⟨hcut, before, after, hpieces, hbefore, hafter⟩ |
            ⟨hcut, before, p, q, after, hpq, hp, hq, hpieces, hbefore, hafter⟩
          · refine Or.inl ⟨?_, [] :: before, after, by simp [pieces, hpieces], ?_, hafter⟩
            · rintro ⟨k, hk, hlt, hgt⟩
              rcases List.mem_cons.mp hk with rfl | hk
              · omega
              · exact hcut ⟨k, hk, hlt, hgt⟩
            · simpa using hbefore
          · refine Or.inr ⟨?_, [] :: before, p, q, after, hpq, hp, hq,
              by simp [pieces, hpieces], by simpa using hbefore, hafter⟩
            obtain ⟨k, hk, hbounds⟩ := hcut
            exact ⟨k, List.mem_cons_of_mem _ hk, hbounds⟩
      | some c =>
          clear ih
          rw [chars_some] at ht
          rcases whole_or_cut (c := c) t with ⟨b, hb, hnil⟩ |
            ⟨p, q, rest, hpq, hp, hq, hcut, hrest⟩
          · rw [ht] at hb
            rw [hb]
            obtain ⟨after, hpieces, hafter⟩ := pieces_whole sep hsep hnil
            exact Or.inl ⟨not_cutInside_whole line b n, [], after, hpieces, by simp, hafter⟩
          · rw [ht] at hpq
            rw [hcut]
            have hp' : sep ∉ p := fun hmem => hsep (by rw [hpq]; simp [hmem])
            refine Or.inr ⟨hpq ▸ cutInside_cut hp hq rest n, [], p, q, pieces sep rest, hpq,
              hp, hq, pieces_cut sep hp' rest, by simp, ?_⟩
            rw [← hrest]
            exact isInfix_of_mem_pieces sep rest

section Streams

variable {β γ : Type*}

/-- A reader that yields something for a line only when it sees the whole of
it. -/
structure WholeOnly (read : List α → List β) (line : List α) : Prop where
  beginning : ∀ p q, line = p ++ q → q ≠ [] → read p = []
  inner : ∀ p q x, line = p ++ q → p ≠ [] → x <:+: q → read x = []

/-- The positions of lines that are each followed by a separator. -/
def placed (text : γ → List α) (n : Nat) : List γ → List (Nat × γ)
  | [] => []
  | item :: rest => (n, item) :: placed text (n + (text item).length + 1) rest

theorem placed_start {text : γ → List α} {n : Nat} {items : List γ} {entry : Nat × γ}
    (h : entry ∈ placed text n items) : n ≤ entry.1 := by
  induction items generalizing n with
  | nil => cases h
  | cons item rest ih =>
      rcases List.mem_cons.mp h with rfl | h
      · exact Nat.le_refl _
      · have := ih h
        omega

theorem map_placed (text : γ → List α) (n : Nat) (items : List γ) :
    (placed text n items).map Prod.snd = items := by
  induction items generalizing n with
  | nil => rfl
  | cons item rest ih => simp [placed, ih]

theorem flatMap_nil_of_forall {read : List α → List β} (hnil : read [] = [])
    {l : List (List α)} (h : ∀ x ∈ l, x = []) : l.flatMap read = [] := by
  rw [List.flatMap_eq_nil_iff]
  intro x hx
  rw [h x hx, hnil]

theorem flatMap_pieces_line [DecidableEq α] (sep : α) {read : List α → List β}
    (hnil : read [] = []) {line : List α} (hwhole : WholeOnly read line)
    (hsep : sep ∉ line) {t : List (Token α)} (ht : chars t = line) (n : Nat) :
    (pieces sep t).flatMap read =
      if CutInside (boundaries n t) n line.length then [] else read line := by
  rcases eq_or_ne line [] with rfl | hline
  · rw [flatMap_nil_of_forall hnil (pieces_of_chars_nil sep ht), hnil, ite_self]
  rcases pieces_line sep hline hsep ht n with
    ⟨hcut, before, after, hpieces, hbefore, hafter⟩ |
    ⟨hcut, before, p, q, after, hpq, hp, hq, hpieces, hbefore, hafter⟩
  · rw [if_neg hcut, hpieces, List.flatMap_append, List.flatMap_cons,
      flatMap_nil_of_forall hnil hbefore, flatMap_nil_of_forall hnil hafter]
    simp
  · rw [if_pos hcut, hpieces, List.flatMap_append, List.flatMap_cons,
      flatMap_nil_of_forall hnil hbefore, hwhole.beginning p q hpq hq]
    simp only [List.nil_append, List.flatMap_eq_nil_iff]
    intro x hx
    exact hwhole.inner p q x hpq hp (hafter x hx)

theorem split_tokens {sep : α} {line rest : List α} {t : List (Token α)}
    (ht : chars t = line ++ sep :: rest) :
    ∃ first last, t = first ++ some sep :: last ∧ chars first = line ∧
      chars last = rest := by
  obtain ⟨start, tail, rfl, hstart, htail⟩ := List.filterMap_eq_append_iff.mp ht
  obtain ⟨gap, x, last, rfl, hgap, hx, hlast⟩ := List.filterMap_eq_cons_iff.mp htail
  have hsep : x = some sep := hx
  have hnil : chars gap = [] := List.filterMap_eq_nil_iff.mpr hgap
  refine ⟨start ++ gap, last, by simp [hsep], ?_, hlast⟩
  rw [chars_append, hnil, List.append_nil]
  exact hstart

/-- What a reader gets out of a stream of lines, however it is cut into reads:
the lines that no boundary falls into. -/
theorem flatMap_pieces_stream [DecidableEq α] (sep : α) {read : List α → List β}
    (hnil : read [] = []) (text : γ → List α) {items : List γ}
    (hwhole : ∀ item ∈ items, WholeOnly read (text item))
    (hsep : ∀ item ∈ items, sep ∉ text item) {t : List (Token α)}
    (ht : chars t = items.flatMap fun item => text item ++ [sep]) (n : Nat) :
    (pieces sep t).flatMap read =
      (placed text n items).flatMap fun entry =>
        if CutInside (boundaries n t) entry.1 (text entry.2).length then []
        else read (text entry.2) := by
  induction items generalizing t n with
  | nil => exact flatMap_nil_of_forall hnil (pieces_of_chars_nil sep ht)
  | cons item rest ih =>
      obtain ⟨first, last, rfl, hfirst, hlast⟩ : ∃ first last,
          t = first ++ some sep :: last ∧ chars first = text item ∧
            chars last = rest.flatMap fun item => text item ++ [sep] :=
        split_tokens (by rw [ht]; simp)
      have hbounds : boundaries n (first ++ some sep :: last) =
          boundaries n first ++ boundaries (n + (text item).length + 1) last := by
        rw [boundaries_append, hfirst, boundaries]
      rw [pieces_append sep (Or.inr rfl), List.flatMap_append, hbounds, placed,
        List.flatMap_cons,
        flatMap_pieces_line sep hnil (hwhole item (by simp)) (hsep item (by simp)) hfirst n,
        ih (fun i hi => hwhole i (by simp [hi])) (fun i hi => hsep i (by simp [hi])) hlast
          (n + (text item).length + 1)]
      congr 1
      · have hhead : CutInside (boundaries n first ++
              boundaries (n + (text item).length + 1) last) n (text item).length ↔
            CutInside (boundaries n first) n (text item).length := by
          rw [cutInside_append, or_iff_left]
          apply not_cutInside_of_after
          intro p hp
          have := (boundaries_bounds hp).1
          omega
        simp only [hhead]
      · apply List.flatMap_congr
        intro entry hentry
        have hstart := placed_start hentry
        have htail : CutInside (boundaries n first ++
              boundaries (n + (text item).length + 1) last) entry.1
              (text entry.2).length ↔
            CutInside (boundaries (n + (text item).length + 1) last) entry.1
              (text entry.2).length := by
          rw [cutInside_append, or_iff_right]
          apply not_cutInside_of_before
          intro p hp
          have := (boundaries_bounds hp).2
          rw [hfirst] at this
          omega
        simp only [htail]

theorem length_flatMap_le {l : List γ} {f g : γ → List β}
    (h : ∀ x ∈ l, f x = [] ∨ f x = g x) : (l.flatMap f).length ≤ (l.flatMap g).length := by
  induction l with
  | nil => simp
  | cons x l ih =>
      have htail := ih fun y hy => h y (by simp [hy])
      rw [List.flatMap_cons, List.flatMap_cons, List.length_append, List.length_append]
      rcases h x (by simp) with hx | hx
      · rw [hx, List.length_nil]
        omega
      · rw [hx]
        omega

theorem flatMap_eq_flatMap_iff {l : List γ} {f g : γ → List β}
    (h : ∀ x ∈ l, f x = [] ∨ f x = g x) :
    l.flatMap f = l.flatMap g ↔ ∀ x ∈ l, f x = g x := by
  constructor
  · intro heq
    induction l with
    | nil => simp
    | cons x l ih =>
        have hl : ∀ y ∈ l, f y = [] ∨ f y = g y := fun y hy => h y (by simp [hy])
        have hx : f x = g x := by
          rcases h x (by simp) with hx | hx
          · have htail := length_flatMap_le hl
            have htotal := congrArg List.length heq
            rw [List.flatMap_cons, List.flatMap_cons, List.length_append,
              List.length_append, hx, List.length_nil] at htotal
            have hzero : (g x).length = 0 := by omega
            rw [hx, List.length_eq_zero_iff.mp hzero]
          · exact hx
        rw [List.flatMap_cons, List.flatMap_cons, hx, List.append_cancel_left_eq] at heq
        rintro y (_ | ⟨_, hy⟩)
        · exact hx
        · exact ih hl heq y hy
  · exact List.flatMap_congr

end Streams

section Split

theorem pieces_read (sep : Char) (l : List Char) :
    pieces sep (l.map some) = splitChars sep l := by
  induction l with
  | nil => rfl
  | cons c l ih =>
      by_cases hc : c = sep
      · simp [pieces, splitChars, hc, ih]
      · cases hl : splitChars sep l <;> simp [pieces, splitChars, hc, ih, hl]

theorem flatMap_pieces_tokens {β : Type*} (sep : Char) (f : List Char → List β)
    (hf : f [] = []) (reads : List (List Char)) :
    (pieces sep (tokens reads)).flatMap f =
      reads.flatMap fun chunk => (splitChars sep chunk).flatMap f := by
  induction reads with
  | nil => simp [tokens, pieces, hf]
  | cons chunk reads ih =>
      rw [tokens_cons, pieces_append sep (Or.inl rfl), List.flatMap_append, ih, pieces_read,
        List.flatMap_cons]

theorem splitChars_ne_nil (sep : Char) (l : List Char) : splitChars sep l ≠ [] := by
  rw [← pieces_read]
  exact pieces_ne_nil sep _

theorem splitChars_cons {sep c : Char} (hc : c ≠ sep) (l : List Char) :
    ∃ piece rest, splitChars sep l = piece :: rest ∧
      splitChars sep (c :: l) = (c :: piece) :: rest := by
  obtain ⟨piece, rest, hl⟩ := List.exists_cons_of_ne_nil (splitChars_ne_nil sep l)
  exact ⟨piece, rest, hl, by simp [splitChars, hc, hl]⟩

theorem flatMap_splitChars (sep : Char) (l : List Char) :
    (splitChars sep l).flatMap (fun line => line ++ [sep]) = l ++ [sep] := by
  induction l with
  | nil => rfl
  | cons c l ih =>
      by_cases hc : c = sep
      · simp [splitChars, hc, ih]
      · obtain ⟨piece, rest, hl, hcl⟩ := splitChars_cons hc l
        rw [hl, List.flatMap_cons] at ih
        rw [hcl, List.flatMap_cons, List.cons_append, List.cons_append, ih, List.cons_append]

theorem not_mem_of_mem_splitChars {sep : Char} {l line : List Char}
    (h : line ∈ splitChars sep l) : sep ∉ line := by
  induction l generalizing line with
  | nil => simp_all [splitChars]
  | cons c l ih =>
      by_cases hc : c = sep
      · rw [splitChars, if_pos hc] at h
        rcases List.mem_cons.mp h with rfl | h
        · simp
        · exact ih h
      · obtain ⟨piece, rest, hl, hcl⟩ := splitChars_cons hc l
        rw [hcl] at h
        rcases List.mem_cons.mp h with rfl | h
        · have hpiece : sep ∉ piece := ih (by simp [hl])
          simp [hpiece, Ne.symm hc]
        · exact ih (by simp [hl, h])

theorem infix_of_mem_dropLast {sep : Char} {l line : List Char}
    (h : line ∈ (splitChars sep l).dropLast) : line ++ [sep] <:+: l := by
  have hne := splitChars_ne_nil sep l
  have hlines := flatMap_splitChars sep l
  rw [← List.dropLast_append_getLast hne, List.flatMap_append, List.flatMap_singleton,
    ← List.append_assoc] at hlines
  have hl := List.append_cancel_right hlines
  obtain ⟨before, after, hsplit⟩ := List.append_of_mem h
  rw [← hl, hsplit, List.flatMap_append, List.flatMap_cons]
  rw [← List.append_assoc, List.append_assoc _ _ (List.getLast _ hne)]
  exact List.infix_append _ _ _

theorem append_eq_append_cons {l b u v : List α} {c : α} (hc : c ∉ l)
    (h : l ++ b = u ++ c :: v) : ∃ w, b = w ++ c :: v := by
  rcases List.append_eq_append_iff.mp h with ⟨w, -, hb⟩ | ⟨w, hl, hv⟩
  · exact ⟨w, hb⟩
  · cases w with
    | nil => exact ⟨[], hv.symm⟩
    | cons d w =>
        have hd : c = d := (List.cons.inj hv).1
        exact absurd (by simp [hl, hd]) hc

end Split

end Botman.Library.CutText
