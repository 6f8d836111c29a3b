import Mathlib.Data.List.Basic
import Mathlib.Tactic.IntervalCases
import Mathlib.Tactic.SplitIfs

/-!
JSON texts: a parser with the grammar of `JSON.parse`, and the string literals
that an encoder restricted to ASCII writes.

Strings are sequences of UTF-16 code units, as in the languages that exchange
such texts.  A code point outside the basic plane is two units, and each unit
is escaped on its own.
-/

namespace Botman.Library.JsonText

/-- A parsed text.  Numbers keep their spelling. -/
inductive JsonValue where
  | null
  | bool (b : Bool)
  | num (text : List Char)
  | str (units : List Nat)
  | arr (items : List JsonValue)
  | obj (fields : List (List Nat × JsonValue))

/-- The code units of a code point. -/
def utf16 (n : Nat) : List Nat :=
  if n < 0x10000 then [n]
  else [0xD800 + (n - 0x10000) / 0x400, 0xDC00 + (n - 0x10000) % 0x400]

/-- The characters of a sequence of units.  A surrogate without its partner is
replaced. -/
def decodeUnits : List Nat → List Char
  | [] => []
  | [u] => [Char.ofNat u]
  | u :: v :: rest =>
      if 0xD800 ≤ u ∧ u < 0xDC00 ∧ 0xDC00 ≤ v ∧ v < 0xE000 then
        Char.ofNat (0x10000 + (u - 0xD800) * 0x400 + (v - 0xDC00)) :: decodeUnits rest
      else Char.ofNat u :: decodeUnits (v :: rest)

theorem decodeUnits_utf16 (c : Char) (rest : List Nat) :
    decodeUnits (utf16 c.toNat ++ rest) = c :: decodeUnits rest := by
  have hvalid : c.toNat < 0xD800 ∨ 0xDFFF < c.toNat ∧ c.toNat < 0x110000 := c.valid
  by_cases hplane : c.toNat < 0x10000
  · rw [utf16, if_pos hplane]
    cases rest with
    | nil => simp [decodeUnits]
    | cons v rest =>
        have hno : ¬ (0xD800 ≤ c.toNat ∧ c.toNat < 0xDC00 ∧ 0xDC00 ≤ v ∧ v < 0xE000) := by omega
        rw [List.singleton_append, decodeUnits, if_neg hno, Char.ofNat_toNat]
  · rw [utf16, if_neg hplane, List.cons_append, List.singleton_append, decodeUnits,
      if_pos (by omega)]
    have hjoined : 0x10000 + (0xD800 + (c.toNat - 0x10000) / 0x400 - 0xD800) * 0x400 +
        (0xDC00 + (c.toNat - 0x10000) % 0x400 - 0xDC00) = c.toNat := by omega
    rw [hjoined, Char.ofNat_toNat]

/-- The four blanks of JSON. -/
def isBlank (c : Char) : Bool :=
  c = ' ' ∨ c = '\t' ∨ c = '\n' ∨ c = '\r'

def skip (s : List Char) : List Char :=
  s.dropWhile isBlank

def hexValue (c : Char) : Option Nat :=
  if '0' ≤ c ∧ c ≤ '9' then some (c.toNat - 48)
  else if 'a' ≤ c ∧ c ≤ 'f' then some (c.toNat - 87)
  else if 'A' ≤ c ∧ c ≤ 'F' then some (c.toNat - 55)
  else none

/-- The value of four hexadecimal digits. -/
def hexFour (a b c d : Char) : Option Nat :=
  match hexValue a, hexValue b, hexValue c, hexValue d with
  | some a, some b, some c, some d => some (((a * 16 + b) * 16 + c) * 16 + d)
  | _, _, _, _ => none

/-- The unit that an escape of two characters stands for. -/
def shortEscape (c : Char) : Option Nat :=
  if c = '"' then some 0x22
  else if c = '\\' then some 0x5C
  else if c = '/' then some 0x2F
  else if c = 'b' then some 8
  else if c = 'f' then some 12
  else if c = 'n' then some 10
  else if c = 'r' then some 13
  else if c = 't' then some 9
  else none

def prepend (units : List Nat) (found : Option (List Nat × List Char)) :
    Option (List Nat × List Char) :=
  found.map fun p => (units ++ p.1, p.2)

/-- A string after its opening quote: its units and what follows it. -/
def stringTail : List Char → Option (List Nat × List Char)
  | [] => none
  | c :: rest =>
      if c = '"' then some ([], rest)
      else if c = '\\' then
        match rest with
        | [] => none
        | e :: rest =>
            if e = 'u' then
              match rest with
              | a :: b :: c :: d :: rest =>
                  match hexFour a b c d with
                  | some u => prepend [u] (stringTail rest)
                  | none => none
              | _ => none
            else
              match shortEscape e with
              | some u => prepend [u] (stringTail rest)
              | none => none
      else if c.toNat < 0x20 then none
      else prepend (utf16 c.toNat) (stringTail rest)

/-- The digits that a text starts with, which must not be none. -/
def digitRun (s : List Char) : Option (List Char × List Char) :=
  match s.span Char.isDigit with
  | ([], _) => none
  | run => some run

/-- A fraction or an exponent is optional, but must have digits. -/
def fraction : List Char → Option (List Char × List Char)
  | '.' :: rest => (digitRun rest).map fun run => ('.' :: run.1, run.2)
  | rest => some ([], rest)

def exponent : List Char → Option (List Char × List Char)
  | [] => some ([], [])
  | c :: rest =>
      if c = 'e' ∨ c = 'E' then
        match rest with
        | '+' :: rest => (digitRun rest).map fun run => (c :: '+' :: run.1, run.2)
        | '-' :: rest => (digitRun rest).map fun run => (c :: '-' :: run.1, run.2)
        | rest => (digitRun rest).map fun run => (c :: run.1, run.2)
      else some ([], c :: rest)

/-- A number without its sign; one that starts with zero has no further
digit before the fraction. -/
def magnitude : List Char → Option (List Char × List Char)
  | '0' :: rest => some (['0'], rest)
  | rest => digitRun rest

/-- A number, as the text it is written in. -/
def number (s : List Char) : Option (List Char × List Char) :=
  let (sign, s) :=
    match s with
    | '-' :: rest => (['-'], rest)
    | rest => ([], rest)
  (magnitude s).bind fun (whole, s) =>
    (fraction s).bind fun (part, s) =>
      (exponent s).map fun (power, s) => (sign ++ whole ++ part ++ power, s)

/-- One of the three names. -/
def keyword (name : List Char) (value : JsonValue) (s : List Char) :
    Option (JsonValue × List Char) :=
  if name.isPrefixOf s then some (value, s.drop name.length) else none

mutual

/-- A value in front of a text.  The fuel bounds the nesting and the number of
members; the length of the text is enough. -/
def value : Nat → List Char → Option (JsonValue × List Char)
  | 0, _ => none
  | fuel + 1, s =>
      match skip s with
      | [] => none
      | c :: rest =>
          if c = '{' then
            match skip rest with
            | [] => none
            | d :: rest =>
                if d = '}' then some (.obj [], rest)
                else (members fuel (d :: rest)).map fun p => (.obj p.1, p.2)
          else if c = '[' then
            match skip rest with
            | [] => none
            | d :: rest =>
                if d = ']' then some (.arr [], rest)
                else (elements fuel (d :: rest)).map fun p => (.arr p.1, p.2)
          else if c = '"' then (stringTail rest).map fun p => (.str p.1, p.2)
          else if c = 't' then keyword ['t', 'r', 'u', 'e'] (.bool true) (c :: rest)
          else if c = 'f' then keyword ['f', 'a', 'l', 's', 'e'] (.bool false) (c :: rest)
          else if c = 'n' then keyword ['n', 'u', 'l', 'l'] .null (c :: rest)
          else (number (c :: rest)).map fun p => (.num p.1, p.2)

def members : Nat → List Char → Option (List (List Nat × JsonValue) × List Char)
  | 0, _ => none
  | fuel + 1, s =>
      match skip s with
      | '"' :: rest =>
          (stringTail rest).bind fun (key, rest) =>
            match skip rest with
            | ':' :: rest =>
                (value fuel rest).bind fun (item, rest) =>
                  match skip rest with
                  | '}' :: rest => some ([(key, item)], rest)
                  | ',' :: rest =>
                      (members fuel rest).map fun p => ((key, item) :: p.1, p.2)
                  | _ => none
            | _ => none
      | _ => none

def elements : Nat → List Char → Option (List JsonValue × List Char)
  | 0, _ => none
  | fuel + 1, s =>
      (value fuel s).bind fun (item, rest) =>
        match skip rest with
        | ']' :: rest => some ([item], rest)
        | ',' :: rest => (elements fuel rest).map fun p => (item :: p.1, p.2)
        | _ => none

end

/-- `JSON.parse`, absent where it throws. -/
def parse (s : List Char) : Option JsonValue :=
  match value (s.length + 1) s with
  | some (found, rest) => if skip rest = [] then some found else none
  | none => none

/-- `\uXXXX`, in lower case. -/
def unicodeEscape (u : Nat) : List Char :=
  ['\\', 'u', Nat.digitChar (u / 4096 % 16), Nat.digitChar (u / 256 % 16),
    Nat.digitChar (u / 16 % 16), Nat.digitChar (u % 16)]

/-- How a code unit is written in a string literal of ASCII characters. -/
def escapeUnit (u : Nat) : List Char :=
  if u = 0x22 then ['\\', '"']
  else if u = 0x5C then ['\\', '\\']
  else if u = 10 then ['\\', 'n']
  else if u = 13 then ['\\', 'r']
  else if u = 9 then ['\\', 't']
  else if u = 12 then ['\\', 'f']
  else if u = 8 then ['\\', 'b']
  else if 0x20 ≤ u ∧ u ≤ 0x7E then [Char.ofNat u]
  else unicodeEscape u

/-- A string literal without its quotes. -/
def escapeUnits (units : List Nat) : List Char :=
  units.flatMap escapeUnit

theorem hexValue_digitChar {d : Nat} (h : d < 16) :
    hexValue (Nat.digitChar d) = some d ∧ Nat.digitChar d ≠ '"' := by
  interval_cases d <;> decide

/-- The three forms that a unit is written in. -/
inductive Written (u : Nat) : List Char → Prop where
  | short (e : Char) (hne : e ≠ 'u') (hvalue : shortEscape e = some u) :
      Written u ['\\', e]
  | plain (c : Char) (hquote : c ≠ '"') (hescape : c ≠ '\\') (hvisible : 0x20 ≤ c.toNat)
      (hvalue : c.toNat = u) (hbound : u ≤ 0x7E) : Written u [c]
  | unicode (a b c d : Char) (hvalue : hexFour a b c d = some u)
      (hquote : '"' ∉ [a, b, c, d]) : Written u ['\\', 'u', a, b, c, d]

theorem written_unicodeEscape {u : Nat} (hu : u < 0x10000) :
    Written u (unicodeEscape u) := by
  obtain ⟨ha, ha'⟩ := hexValue_digitChar (Nat.mod_lt (u / 4096) (by omega : 0 < 16))
  obtain ⟨hb, hb'⟩ := hexValue_digitChar (Nat.mod_lt (u / 256) (by omega : 0 < 16))
  obtain ⟨hc, hc'⟩ := hexValue_digitChar (Nat.mod_lt (u / 16) (by omega : 0 < 16))
  obtain ⟨hd, hd'⟩ := hexValue_digitChar (Nat.mod_lt u (by omega : 0 < 16))
  refine .unicode _ _ _ _ ?_ ?_
  · simp only [hexFour, ha, hb, hc, hd, Option.some.injEq]
    omega
  · simp [ha'.symm, hb'.symm, hc'.symm, hd'.symm]

theorem written_escapeUnit {u : Nat} (hu : u < 0x10000) : Written u (escapeUnit u) := by
  by_cases h22 : u = 0x22
  · subst h22
    exact .short '"' (by decide) (by decide)
  by_cases h5c : u = 0x5C
  · subst h5c
    exact .short '\\' (by decide) (by decide)
  by_cases h10 : u = 10
  · subst h10
    exact .short 'n' (by decide) (by decide)
  by_cases h13 : u = 13
  · subst h13
    exact .short 'r' (by decide) (by decide)
  by_cases h9 : u = 9
  · subst h9
    exact .short 't' (by decide) (by decide)
  by_cases h12 : u = 12
  · subst h12
    exact .short 'f' (by decide) (by decide)
  by_cases h8 : u = 8
  · subst h8
    exact .short 'b' (by decide) (by decide)
  rw [escapeUnit, if_neg h22, if_neg h5c, if_neg h10, if_neg h13, if_neg h9, if_neg h12, if_neg h8]
  by_cases hplain : 0x20 ≤ u ∧ u ≤ 0x7E
  · rw [if_pos hplain]
    have hvalue : (Char.ofNat u).toNat = u := by
      have hvalid : u.isValidChar := Or.inl (by omega)
      rw [Char.ofNat, dif_pos hvalid]
      rfl
    refine .plain _ ?_ ?_ (by omega) hvalue hplain.2
    · intro hquote
      rw [hquote] at hvalue
      exact h22 hvalue.symm
    · intro hescape
      rw [hescape] at hvalue
      exact h5c hvalue.symm
  · rw [if_neg hplain]
    exact written_unicodeEscape hu

theorem visible_of_hexValue {c : Char} {d : Nat} (h : hexValue c = some d) :
    0x20 ≤ c.toNat ∧ c.toNat ≤ 0x7E := by
  have hle : ∀ a b : Char, a ≤ b ↔ a.toNat ≤ b.toNat := fun a b => UInt32.le_iff_toNat_le
  unfold hexValue at h
  split_ifs at h with hdigit hlower hupper
  · rw [hle, hle] at hdigit
    exact ⟨le_trans (by decide) hdigit.1, le_trans hdigit.2 (by decide)⟩
  · rw [hle, hle] at hlower
    exact ⟨le_trans (by decide) hlower.1, le_trans hlower.2 (by decide)⟩
  · rw [hle, hle] at hupper
    exact ⟨le_trans (by decide) hupper.1, le_trans hupper.2 (by decide)⟩

theorem visible_of_shortEscape {c : Char} {u : Nat} (h : shortEscape c = some u) :
    0x20 ≤ c.toNat ∧ c.toNat ≤ 0x7E := by
  have hmem : c ∈ ['"', '\\', '/', 'b', 'f', 'n', 'r', 't'] := by
    by_contra hnot
    simp only [List.mem_cons, List.not_mem_nil, or_false, not_or] at hnot
    obtain ⟨h1, h2, h3, h4, h5, h6, h7, h8⟩ := hnot
    rw [shortEscape, if_neg h1, if_neg h2, if_neg h3, if_neg h4, if_neg h5, if_neg h6, if_neg h7,
      if_neg h8] at h
    cases h
  simp only [List.mem_cons, List.not_mem_nil, or_false] at hmem
  rcases hmem with rfl | rfl | rfl | rfl | rfl | rfl | rfl | rfl <;> decide

theorem written_visible {u : Nat} {text : List Char} (h : Written u text) :
    ∀ c ∈ text, 0x20 ≤ c.toNat ∧ c.toNat ≤ 0x7E := by
  cases h with
  | short e hne hvalue =>
      simp only [List.mem_cons, List.not_mem_nil, or_false]
      rintro c (rfl | rfl)
      · decide
      · exact visible_of_shortEscape hvalue
  | plain c hquote hescape hvisible hvalue hbound =>
      simp only [List.mem_singleton]
      rintro _ rfl
      omega
  | unicode a b c d hvalue hquote =>
      unfold hexFour at hvalue
      split at hvalue
      · rename_i ha hb hc hd
        simp only [List.mem_cons, List.not_mem_nil, or_false]
        rintro x (rfl | rfl | rfl | rfl | rfl | rfl)
        · decide
        · decide
        · exact visible_of_hexValue ha
        · exact visible_of_hexValue hb
        · exact visible_of_hexValue hc
        · exact visible_of_hexValue hd
      · cases hvalue

theorem escapeUnits_visible {units : List Nat} (h : ∀ u ∈ units, u < 0x10000) :
    ∀ c ∈ escapeUnits units, 0x20 ≤ c.toNat ∧ c.toNat ≤ 0x7E := by
  intro c hc
  obtain ⟨u, hu, hcu⟩ := List.mem_flatMap.mp hc
  exact written_visible (written_escapeUnit (h u hu)) c hcu

theorem stringTail_quote (rest : List Char) : stringTail ('"' :: rest) = some ([], rest) := by
  rw [stringTail.eq_def]
  rfl

theorem stringTail_written {u : Nat} {text : List Char} (h : Written u text)
    (rest : List Char) : stringTail (text ++ rest) = prepend [u] (stringTail rest) := by
  cases h with
  | short e hne hvalue =>
      rw [stringTail.eq_def]
      simp [hne, hvalue]
  | plain c hquote hescape hvisible hvalue hbound =>
      have hunits : utf16 c.toNat = [u] := by
        rw [utf16, hvalue, if_pos (by omega)]
      rw [stringTail.eq_def]
      simp [hquote, hescape, Nat.not_lt.mpr hvisible, hunits]
  | unicode a b c d hvalue hquote =>
      rw [stringTail.eq_def]
      simp [hvalue]

theorem stringTail_escapeUnits {units : List Nat} (h : ∀ u ∈ units, u < 0x10000)
    (rest : List Char) :
    stringTail (escapeUnits units ++ '"' :: rest) = some (units, rest) := by
  induction units with
  | nil => exact stringTail_quote rest
  | cons u units ih =>
      have hu := written_escapeUnit (h u (by simp))
      have hrest := ih fun v hv => h v (by simp [hv])
      rw [escapeUnits, List.flatMap_cons, List.append_assoc, stringTail_written hu]
      rw [escapeUnits] at hrest
      rw [hrest]
      rfl

theorem prefix_append_cases {α : Type*} {q a b : List α} (h : q <+: a ++ b) :
    (q <+: a ∧ q ≠ a) ∨ ∃ q', q = a ++ q' ∧ q' <+: b := by
  obtain ⟨t, ht⟩ := h
  rcases List.append_eq_append_iff.mp ht with ⟨as, rfl, htb⟩ | ⟨bs, rfl, hb⟩
  · by_cases has : as = []
    · subst has
      exact Or.inr ⟨[], by simp, List.nil_prefix⟩
    · exact Or.inl ⟨⟨as, rfl⟩, by simpa using has⟩
  · exact Or.inr ⟨bs, rfl, ⟨t, hb.symm⟩⟩

theorem stringTail_truncated_written {u : Nat} {text q : List Char} (h : Written u text)
    (hq : q <+: text) (hne : q ≠ text) : stringTail q = none := by
  cases h with
  | short e =>
      simp only [List.prefix_cons_iff, List.prefix_nil] at hq
      rcases hq with rfl | ⟨_, rfl, rfl | ⟨_, rfl, rfl⟩⟩
      · rfl
      · rfl
      · exact absurd rfl hne
  | plain c =>
      simp only [List.prefix_cons_iff, List.prefix_nil] at hq
      rcases hq with rfl | ⟨_, rfl, rfl⟩
      · rfl
      · exact absurd rfl hne
  | unicode a b c d =>
      simp only [List.prefix_cons_iff, List.prefix_nil] at hq
      rcases hq with rfl | ⟨_, rfl, rfl | ⟨_, rfl, rfl | ⟨_, rfl, rfl | ⟨_, rfl,
        rfl | ⟨_, rfl, rfl | ⟨_, rfl, rfl⟩⟩⟩⟩⟩⟩
      all_goals first | rfl | exact absurd rfl hne

theorem stringTail_truncated {units : List Nat} (h : ∀ u ∈ units, u < 0x10000)
    {q : List Char} (hq : q <+: escapeUnits units) : stringTail q = none := by
  induction units generalizing q with
  | nil =>
      have hnil : q = [] := by simpa [escapeUnits] using hq
      rw [hnil]
      rfl
  | cons u units ih =>
      have hu := written_escapeUnit (h u (by simp))
      rw [escapeUnits, List.flatMap_cons] at hq
      rcases prefix_append_cases hq with ⟨hstart, hne⟩ | ⟨q', rfl, hq'⟩
      · exact stringTail_truncated_written hu hstart hne
      · rw [stringTail_written hu, ih (fun v hv => h v (by simp [hv])) hq']
        rfl

theorem written_quote {u : Nat} {text z t : List Char} (h : Written u text)
    (heq : text = z ++ '"' :: t) : z = ['\\'] := by
  cases h with
  | short e =>
      rcases z with _ | ⟨c, _ | ⟨d, z⟩⟩
      · cases heq
      · cases heq
        rfl
      · simp at heq
  | plain c hquote =>
      rcases z with _ | ⟨d, z⟩
      · cases heq
        exact absurd rfl hquote
      · simp at heq
  | unicode a b c d hvalue hquote =>
      rcases z with _ | ⟨x, _ | ⟨y, z⟩⟩
      · cases heq
      · cases heq
      · simp only [List.cons_append, List.cons.injEq] at heq
        obtain ⟨-, -, htail⟩ := heq
        exact absurd (by rw [htail]; simp) hquote

theorem quote_cases {units : List Nat} (h : ∀ u ∈ units, u < 0x10000)
    {rest z t : List Char} (hrest : '"' ∉ rest)
    (heq : escapeUnits units ++ '"' :: rest = z ++ '"' :: t) :
    (∃ z', z = z' ++ ['\\']) ∨ t = rest := by
  -- the only quote of a literal without a backslash in front of it is the closing one
  induction units generalizing z with
  | nil =>
      rcases z with _ | ⟨c, z⟩
      · cases heq
        exact Or.inr rfl
      · simp only [escapeUnits, List.flatMap_nil, List.nil_append, List.cons_append,
          List.cons.injEq] at heq
        exact absurd (by rw [heq.2]; simp) hrest
  | cons u units ih =>
      have hu := written_escapeUnit (h u (by simp))
      rw [escapeUnits, List.flatMap_cons, List.append_assoc] at heq
      rcases List.append_eq_append_iff.mp heq with ⟨z', rfl, htail⟩ | ⟨bs, htext, hbs⟩
      · rcases ih (fun v hv => h v (by simp [hv])) htail with ⟨z'', rfl⟩ | ht
        · exact Or.inl ⟨escapeUnit u ++ z'', by simp⟩
        · exact Or.inr ht
      · rcases bs with _ | ⟨c, bs⟩
        · have htail : escapeUnits units ++ '"' :: rest = [] ++ '"' :: t := hbs.symm
          rcases ih (fun v hv => h v (by simp [hv])) htail with ⟨z'', hz⟩ | ht
          · simp at hz
          · exact Or.inr ht
        · have hc : c = '"' := by simpa using (congrArg List.head? hbs).symm
          subst hc
          exact Or.inl ⟨[], written_quote hu htext⟩

theorem skip_cons {c : Char} (h : isBlank c = false) (rest : List Char) :
    skip (c :: rest) = c :: rest := by
  simp [skip, h]

theorem skip_space (rest : List Char) : skip (' ' :: rest) = skip rest := by
  simp [skip, isBlank]

theorem value_string (fuel : Nat) (rest : List Char) :
    value (fuel + 1) ('"' :: rest) = (stringTail rest).map fun p => (.str p.1, p.2) := by
  rw [value, skip_cons (by decide)]
  rfl

theorem value_space (fuel : Nat) (rest : List Char) :
    value fuel (' ' :: rest) = value fuel rest := by
  cases fuel with
  | zero => rw [value, value]
  | succ fuel => rw [value, value, skip_space]

theorem members_space (fuel : Nat) (rest : List Char) :
    members fuel (' ' :: rest) = members fuel rest := by
  cases fuel with
  | zero => rw [members, members]
  | succ fuel => rw [members, members, skip_space]

theorem value_object (fuel : Nat) (rest : List Char) :
    value (fuel + 1) ('{' :: '"' :: rest) =
      (members fuel ('"' :: rest)).map fun p => (.obj p.1, p.2) := by
  rw [value, skip_cons (by decide)]
  simp only [if_true]
  rw [skip_cons (by decide)]
  rfl

theorem members_key (fuel : Nat) (rest : List Char) :
    members (fuel + 1) ('"' :: rest) =
      (stringTail rest).bind fun p =>
        match skip p.2 with
        | ':' :: rest =>
            (value fuel rest).bind fun q =>
              match skip q.2 with
              | '}' :: rest => some ([(p.1, q.1)], rest)
              | ',' :: rest => (members fuel rest).map fun r => ((p.1, q.1) :: r.1, r.2)
              | _ => none
        | _ => none := by
  rw [members, skip_cons (by decide)]
  rfl

theorem skip_append {blanks : List Char} (h : blanks.all isBlank = true) (rest : List Char) :
    skip (blanks ++ rest) = skip rest :=
  List.dropWhile_append_of_pos (List.all_eq_true.mp h)

theorem value_append {blanks : List Char} (h : blanks.all isBlank = true) (fuel : Nat)
    (rest : List Char) : value fuel (blanks ++ rest) = value fuel rest := by
  cases fuel with
  | zero => rw [value, value]
  | succ fuel => rw [value, value, skip_append h]

theorem members_field {key units : List Nat} (hkey : ∀ u ∈ key, u < 0x10000)
    (hunits : ∀ u ∈ units, u < 0x10000) (fuel : Nat) (rest : List Char) :
    members (fuel + 2) ('"' :: (escapeUnits key ++ '"' :: ':' :: ' ' :: '"' ::
        (escapeUnits units ++ '"' :: rest))) =
      match skip rest with
      | '}' :: rest => some ([(key, .str units)], rest)
      | ',' :: rest =>
          (members (fuel + 1) rest).map fun r => ((key, .str units) :: r.1, r.2)
      | _ => none := by
  have hvalue : value (fuel + 1) (' ' :: '"' :: (escapeUnits units ++ '"' :: rest)) =
      some (.str units, rest) := by
    rw [value_space, value_string, stringTail_escapeUnits hunits]
    rfl
  rw [members_key, stringTail_escapeUnits hkey, Option.bind_some]
  simp only [skip_cons (show isBlank ':' = false by decide), hvalue, Option.bind_some]

/-- An object with one member, a string, as an encoder writes it. -/
def fieldText (key units : List Nat) : List Char :=
  '{' :: '"' :: (escapeUnits key ++ '"' :: ':' :: ' ' :: '"' ::
    (escapeUnits units ++ ['"', '}']))

section FieldText

variable {key units : List Nat}

theorem value_fieldText (hkey : ∀ u ∈ key, u < 0x10000) (hunits : ∀ u ∈ units, u < 0x10000)
    (fuel : Nat) :
    value (fuel + 3) (fieldText key units) = some (.obj [(key, .str units)], []) := by
  rw [fieldText, value_object, members_field hkey hunits, skip_cons (by decide)]
  rfl

/-- `JSON.parse` inverts the encoder. -/
theorem parse_fieldText (hkey : ∀ u ∈ key, u < 0x10000)
    (hunits : ∀ u ∈ units, u < 0x10000) :
    parse (fieldText key units) = some (.obj [(key, .str units)]) := by
  have hlength : ∃ fuel, (fieldText key units).length + 1 = fuel + 3 :=
    ⟨(fieldText key units).length - 2, by simp only [fieldText, List.length_cons]; omega⟩
  obtain ⟨fuel, hfuel⟩ := hlength
  rw [parse, hfuel, value_fieldText hkey hunits fuel]
  rfl

theorem value_nil (fuel : Nat) : value fuel [] = none := by
  cases fuel <;> rw [value]
  rfl

theorem value_truncated_string (hunits : ∀ u ∈ units, u < 0x10000) (fuel : Nat)
    {q : List Char} (hstart : q <+: ' ' :: '"' :: (escapeUnits units ++ ['"', '}']))
    (hne : q ≠ ' ' :: '"' :: (escapeUnits units ++ ['"', '}'])) :
    value fuel q = none ∨ value fuel q = some (.str units, []) := by
  rcases List.prefix_cons_iff.mp hstart with rfl | ⟨r, rfl, hr⟩
  · exact Or.inl (value_nil fuel)
  · rw [value_space]
    rcases List.prefix_cons_iff.mp hr with rfl | ⟨q, rfl, hq⟩
    · exact Or.inl (value_nil fuel)
    · cases fuel with
      | zero => exact Or.inl (by rw [value])
      | succ fuel =>
          rw [value_string]
          rcases prefix_append_cases hq with ⟨hcut, -⟩ | ⟨tail, rfl, htail⟩
          · exact Or.inl (by rw [stringTail_truncated hunits hcut]; rfl)
          · simp only [List.prefix_cons_iff, List.prefix_nil] at htail
            rcases htail with rfl | ⟨_, rfl, rfl | ⟨_, rfl, rfl⟩⟩
            · rw [List.append_nil, stringTail_truncated hunits (List.prefix_refl _)]
              exact Or.inl rfl
            · rw [stringTail_escapeUnits hunits]
              exact Or.inr rfl
            · exact absurd rfl hne

theorem members_truncated (hkey : ∀ u ∈ key, u < 0x10000)
    (hunits : ∀ u ∈ units, u < 0x10000) (fuel : Nat) {q : List Char}
    (hq : q <+: escapeUnits key ++ '"' :: ':' :: ' ' :: '"' ::
      (escapeUnits units ++ ['"', '}']))
    (hne : q ≠ escapeUnits key ++ '"' :: ':' :: ' ' :: '"' ::
      (escapeUnits units ++ ['"', '}'])) :
    members fuel ('"' :: q) = none := by
  cases fuel with
  | zero => rw [members]
  | succ fuel =>
      rw [members_key]
      rcases prefix_append_cases hq with ⟨hcut, -⟩ | ⟨tail, rfl, htail⟩
      · rw [stringTail_truncated hkey hcut]
        rfl
      · rcases List.prefix_cons_iff.mp htail with rfl | ⟨colon, rfl, hcolon⟩
        · rw [List.append_nil, stringTail_truncated hkey (List.prefix_refl _)]
          rfl
        · rw [stringTail_escapeUnits hkey, Option.bind_some]
          rcases List.prefix_cons_iff.mp hcolon with rfl | ⟨item, rfl, hitem⟩
          · rfl
          · have hvalue := value_truncated_string hunits fuel hitem (by
              rintro rfl
              exact hne rfl)
            simp only [skip_cons (show isBlank ':' = false by decide)]
            rcases hvalue with hvalue | hvalue
            · rw [hvalue]
              rfl
            · rw [hvalue]
              rfl

theorem parse_truncated (hkey : ∀ u ∈ key, u < 0x10000)
    (hunits : ∀ u ∈ units, u < 0x10000) {q : List Char}
    (hq : q <+: fieldText key units) (hne : q ≠ fieldText key units) : parse q = none := by
  have hvalue : value (q.length + 1) q = none := by
    rcases List.prefix_cons_iff.mp hq with rfl | ⟨body, rfl, hbody⟩
    · exact value_nil _
    · rcases List.prefix_cons_iff.mp hbody with rfl | ⟨tail, rfl, htail⟩
      · rfl
      · rw [value_object, members_truncated hkey hunits _ htail]
        · rfl
        · rintro rfl
          exact hne rfl
  rw [parse, hvalue]

end FieldText

theorem skip_eq_cons {s rest : List Char} {c : Char} (h : skip s = c :: rest) :
    isBlank c = false ∧ ∃ a, s = a ++ c :: rest ∧ ∀ x ∈ a, isBlank x = true := by
  induction s with
  | nil => cases h
  | cons x s ih =>
      cases hx : isBlank x with
      | false =>
          rw [skip_cons hx] at h
          cases h
          exact ⟨hx, [], rfl, by simp⟩
      | true =>
          have hskip : skip (x :: s) = skip s := by simp [skip, hx]
          obtain ⟨hc, a, rfl, ha⟩ := ih (hskip ▸ h)
          exact ⟨hc, x :: a, rfl, by simpa [hx] using ha⟩

theorem members_eq_some {fuel : Nat} {s : List Char} {c : Char}
    {found : List (List Nat × JsonValue) × List Char} (hc : isBlank c = false)
    (h : members fuel (c :: s) = some found) : c = '"' ∧ stringTail s ≠ none := by
  cases fuel with
  | zero =>
      rw [members] at h
      cases h
  | succ fuel =>
      rw [members, skip_cons hc] at h
      split at h
      · rename_i rest heq
        cases heq
        refine ⟨rfl, ?_⟩
        intro hnone
        rw [hnone] at h
        cases h
      · cases h

theorem value_obj_cases {fuel : Nat} {s rest : List Char}
    {fields : List (List Nat × JsonValue)}
    (h : value fuel s = some (.obj fields, rest)) :
    fields = [] ∨ ∃ a b t, s = a ++ '{' :: (b ++ '"' :: t) ∧
      (∀ c ∈ b, isBlank c = true) ∧ stringTail t ≠ none := by
  cases fuel with
  | zero =>
      rw [value] at h
      cases h
  | succ fuel =>
      rw [value] at h
      split at h
      · cases h
      · rename_i c body hskip
        obtain ⟨-, a, rfl, -⟩ := skip_eq_cons hskip
        split_ifs at h with hbrace hbracket hquote htrue hfalse hnull
        · subst hbrace
          split at h
          · cases h
          · rename_i d tail hskip'
            obtain ⟨hd, b, rfl, hb⟩ := skip_eq_cons hskip'
            split_ifs at h with hclose
            · cases h
              exact Or.inl rfl
            · obtain ⟨found, hfound, -⟩ := Option.map_eq_some_iff.mp h
              obtain ⟨rfl, htail⟩ := members_eq_some hd hfound
              exact Or.inr ⟨a, b, tail, rfl, hb, htail⟩
        · split at h
          · cases h
          · split_ifs at h
            · cases h
            · obtain ⟨_, -, heq⟩ := Option.map_eq_some_iff.mp h
              cases heq
        · obtain ⟨_, -, heq⟩ := Option.map_eq_some_iff.mp h
          cases heq
        · simp [keyword] at h
        · simp [keyword] at h
        · simp [keyword] at h
        · obtain ⟨_, -, heq⟩ := Option.map_eq_some_iff.mp h
          cases heq

/-- Nothing inside a string literal, up to the brace that follows it, parses as
an object with members: such an object needs two quotes that are not
escaped. -/
theorem parse_obj_of_within {units : List Nat} (hunits : ∀ u ∈ units, u < 0x10000)
    {y s z : List Char} (hs : escapeUnits units ++ ['"', '}'] = y ++ s ++ z)
    {fields : List (List Nat × JsonValue)} (h : parse s = some (.obj fields)) :
    fields = [] := by
  obtain ⟨rest, hvalue⟩ : ∃ rest, value (s.length + 1) s = some (.obj fields, rest) := by
    unfold parse at h
    split at h
    · rename_i found rest hvalue
      split_ifs at h
      cases h
      exact ⟨rest, hvalue⟩
    · cases h
  rcases value_obj_cases hvalue with hnil | ⟨a, b, t, rfl, hb, ht⟩
  · exact hnil
  · exfalso
    have hsplit : escapeUnits units ++ '"' :: ['}'] =
        (y ++ a ++ '{' :: b) ++ '"' :: (t ++ z) := by
      rw [hs]
      simp
    rcases quote_cases hunits (by decide) hsplit with ⟨z', hz⟩ | htail
    · have hlast := congrArg List.getLast? hz
      rw [List.getLast?_append_cons, List.getLast?_concat] at hlast
      rcases List.mem_cons.mp (List.mem_of_getLast? hlast) with hbrace | hblank
      · exact absurd hbrace (by decide)
      · exact absurd (hb _ hblank) (by decide)
    · apply ht
      rcases t with _ | ⟨c, _ | ⟨d, t⟩⟩
      · rfl
      · have hc : c = '}' := by simpa using congrArg List.head? htail
        rw [hc]
        decide
      · simp at htail

/-- How a code point is written: one beyond the basic plane as a surrogate
pair. -/
def escapeCodePoint (n : Nat) : List Char :=
  if n < 0x10000 then escapeUnit n
  else
    unicodeEscape (0xD800 + (n - 0x10000) / 0x400) ++
      unicodeEscape (0xDC00 + (n - 0x10000) % 0x400)

theorem escapeUnit_of_large {u : Nat} (h : 0x7E < u) : escapeUnit u = unicodeEscape u := by
  rw [escapeUnit, if_neg (by omega), if_neg (by omega), if_neg (by omega), if_neg (by omega),
    if_neg (by omega), if_neg (by omega), if_neg (by omega), if_neg (by omega)]

theorem escapeCodePoint_eq (n : Nat) : escapeCodePoint n = escapeUnits (utf16 n) := by
  unfold escapeCodePoint utf16 escapeUnits
  split_ifs with h
  · simp
  · rw [List.flatMap_cons, List.flatMap_cons, List.flatMap_nil, List.append_nil,
      escapeUnit_of_large (by omega), escapeUnit_of_large (by omega)]

theorem utf16_lt {n : Nat} (h : n < 0x110000) : ∀ u ∈ utf16 n, u < 0x10000 := by
  intro u hu
  unfold utf16 at hu
  split_ifs at hu with hn
  · rw [List.mem_singleton] at hu
    omega
  · simp only [List.mem_cons, List.not_mem_nil, or_false] at hu
    omega

end Botman.Library.JsonText
