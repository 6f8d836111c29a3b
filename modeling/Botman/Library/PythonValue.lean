import Mathlib.Data.Rat.Defs

/-!
The Python values that a decoded JSON text yields, with the built-in
operations on them that server code relies on: truth testing, dictionary
lookup, `len`, `str` and the conversion `int` of strings and numbers.
-/

namespace Botman.Library.PythonValue

/-- A value produced by `json.loads`, or stored in a JSON column. -/
inductive Json where
  | null
  | bool (b : Bool)
  | int (n : Int)
  | float (q : ℚ)
  | str (s : String)
  | arr (items : List Json)
  | obj (fields : List (String × Json))
  deriving Inhabited

/-- A Python dictionary with string keys, in insertion order. -/
abbrev Dict := List (String × Json)

/-- Truth value testing, as in `if value:` and `a or b`. -/
def truthy : Json → Bool
  | .null => false
  | .bool b => b
  | .int n => n ≠ 0
  | .float q => q ≠ 0
  | .str s => s ≠ ""
  | .arr items => !items.isEmpty
  | .obj fields => !fields.isEmpty

/-- `a or b`. -/
def orElse (a b : Json) : Json :=
  if truthy a then a else b

/-- `d.get(key, default)`. -/
def getD (d : Dict) (key : String) (default : Json) : Json :=
  (d.lookup key).getD default

/-- `d.get(key)`. -/
def get (d : Dict) (key : String) : Json :=
  getD d key .null

/-- `len(value)`, absent where Python raises `TypeError`. -/
def len : Json → Option Nat
  | .str s => some s.length
  | .arr items => some items.length
  | .obj fields => some fields.length
  | _ => none

/-- `str(value)`; the text of a value that is not a string is `repr`'s. -/
def str (repr : Json → String) : Json → String
  | .str s => s
  | value => repr value

@[simp] theorem str_str (repr : Json → String) (s : String) :
    str repr (.str s) = s := rfl

/-- `type(value).__name__`. -/
def typeName : Json → String
  | .null => "NoneType"
  | .bool _ => "bool"
  | .int _ => "int"
  | .float _ => "float"
  | .str _ => "str"
  | .arr _ => "list"
  | .obj _ => "dict"

/-- The code points that `str.isspace` accepts. -/
def isSpace (c : Char) : Bool :=
  (9 ≤ c.toNat && c.toNat ≤ 13) || (28 ≤ c.toNat && c.toNat ≤ 32) ||
    c.toNat = 0x85 || c.toNat = 0xA0 || c.toNat = 0x1680 ||
    (0x2000 ≤ c.toNat && c.toNat ≤ 0x200A) || c.toNat = 0x2028 ||
    c.toNat = 0x2029 || c.toNat = 0x202F || c.toNat = 0x205F ||
    c.toNat = 0x3000

/-- `str.strip`. -/
def strip (s : String) : String :=
  String.ofList (((s.toList.dropWhile isSpace).reverse.dropWhile isSpace).reverse)

theorem dropWhile_isSpace_append {before rest : List Char}
    (hbefore : ∀ c ∈ before, isSpace c = true)
    (hrest : ∀ c, rest.head? = some c → isSpace c = false) :
    (before ++ rest).dropWhile isSpace = rest := by
  rw [List.dropWhile_append_of_pos hbefore]
  cases rest with
  | nil => rfl
  | cons c rest => rw [List.dropWhile_cons_of_neg (by simp [hrest c rfl])]

theorem strip_padded {before body after : List Char} (hbefore : ∀ c ∈ before, isSpace c = true)
    (hafter : ∀ c ∈ after, isSpace c = true) {first : Char} {rest : List Char}
    (hbody : body = first :: rest) (hfirst : isSpace first = false)
    (hlast : ∀ c, body.getLast? = some c → isSpace c = false) :
    strip (String.ofList (before ++ body ++ after)) = String.ofList body := by
  have hleft : (before ++ (body ++ after)).dropWhile isSpace = body ++ after := by
    refine dropWhile_isSpace_append hbefore fun c hc => ?_
    rw [hbody, List.cons_append, List.head?_cons, Option.some.injEq] at hc
    rw [← hc, hfirst]
  have hright : (after.reverse ++ body.reverse).dropWhile isSpace = body.reverse := by
    refine dropWhile_isSpace_append (fun c hc => hafter c (List.mem_reverse.mp hc)) fun c hc => ?_
    exact hlast c (by rwa [List.head?_reverse] at hc)
  rw [strip, String.toList_ofList, List.append_assoc, hleft, List.reverse_append, hright,
    List.reverse_reverse]

theorem strip_eq_self {s : String} (h : ∀ c ∈ s.toList, isSpace c = false) : strip s = s := by
  cases hs : s.toList with
  | nil => rw [← String.ofList_toList (s := s), hs, strip, String.toList_ofList]; rfl
  | cons first rest =>
      have hpadded := @strip_padded [] s.toList [] (by simp) (by simp) first rest hs
        (h first (by simp [hs])) fun c hc => h c (List.mem_of_getLast? hc)
      rwa [List.nil_append, List.append_nil, String.ofList_toList] at hpadded

/-- Pieces of a character list between the occurrences of a separator. -/
def splitChars (sep : Char) : List Char → List (List Char)
  | [] => [[]]
  | c :: rest =>
      if c = sep then [] :: splitChars sep rest
      else
        match splitChars sep rest with
        | [] => [[c]]
        | piece :: pieces => (c :: piece) :: pieces

/-- `s.split(sep)` for a separator of one character. -/
def split (s : String) (sep : Char) : List String :=
  (splitChars sep s.toList).map String.ofList

/-- `sep.join(parts)`. -/
def join (sep : String) : List String → String
  | [] => ""
  | [part] => part
  | part :: parts => part ++ sep ++ join sep parts

def joinTail (sep : String) : List String → String
  | [] => ""
  | part :: parts => sep ++ part ++ joinTail sep parts

theorem join_eq_append_joinTail (sep part : String) (parts : List String) :
    join sep (part :: parts) = part ++ joinTail sep parts := by
  induction parts generalizing part with
  | nil => simp [join, joinTail]
  | cons next rest ih => simp [join, joinTail, ih, String.append_assoc]

theorem joinTail_append (sep : String) (first second : List String) :
    joinTail sep (first ++ second) = joinTail sep first ++ joinTail sep second := by
  induction first with
  | nil => simp [joinTail]
  | cons part parts ih => simp [joinTail, ih, String.append_assoc]

/-- The zeros of the decimal digit blocks of Unicode 15.0. -/
def decimalZeros : List Nat :=
  [0x30, 0x660, 0x6f0, 0x7c0, 0x966, 0x9e6, 0xa66, 0xae6, 0xb66, 0xbe6, 0xc66, 0xce6,
    0xd66, 0xde6, 0xe50, 0xed0, 0xf20, 0x1040, 0x1090, 0x17e0, 0x1810, 0x1946, 0x19d0,
    0x1a80, 0x1a90, 0x1b50, 0x1bb0, 0x1c40, 0x1c50, 0xa620, 0xa8d0, 0xa900, 0xa9d0,
    0xa9f0, 0xaa50, 0xabf0, 0xff10, 0x104a0, 0x10d30, 0x11066, 0x110f0, 0x11136,
    0x111d0, 0x112f0, 0x11450, 0x114d0, 0x11650, 0x116c0, 0x11730, 0x118e0, 0x11950,
    0x11c50, 0x11d50, 0x11da0, 0x11f50, 0x16a60, 0x16ac0, 0x16b50, 0x1d7ce, 0x1d7d8,
    0x1d7e2, 0x1d7ec, 0x1d7f6, 0x1e140, 0x1e2f0, 0x1e4f0, 0x1e950, 0x1fbf0]

/-- The value of a decimal digit of any script. -/
def decimal (c : Char) : Option Nat :=
  (decimalZeros.find? fun base => base ≤ c.toNat && c.toNat < base + 10).map
    fun base => c.toNat - base

/-- Digits with single underscores between them, most significant first. -/
def digits (acc : Nat) : List Char → Option Nat
  | [] => some acc
  | c :: rest =>
      match decimal c with
      | some d => digits (acc * 10 + d) rest
      | none =>
          match rest with
          | next :: rest' =>
              if c = '_' then
                match decimal next with
                | some d => digits (acc * 10 + d) rest'
                | none => none
              else none
          | [] => none

/-- A number without its sign; it starts with a digit. -/
def magnitude : List Char → Option Nat
  | [] => none
  | c :: rest => (decimal c).bind fun d => digits d rest

/-- The code points that `int` skips around a numeral: unlike `str.strip`, it
leaves the separators of ASCII in place. -/
def isNumeralSpace (c : Char) : Bool :=
  isSpace c && !(28 ≤ c.toNat && c.toNat ≤ 31)

/-- `int` ignores the spaces around a numeral. -/
def trimNumeral (chars : List Char) : List Char :=
  ((chars.dropWhile isNumeralSpace).reverse.dropWhile isNumeralSpace).reverse

/-- `int(s)` for a string, absent where Python raises `ValueError`.  The limit on the number of
digits is left out, as the keys that are read this way have no bound here. -/
def intOfString (s : String) : Option Int :=
  match trimNumeral s.toList with
  | '+' :: rest => (magnitude rest).map Int.ofNat
  | '-' :: rest => (magnitude rest).map fun n => -Int.ofNat n
  | chars => (magnitude chars).map Int.ofNat

theorem decimal_of_isDigit {c : Char} (h : c.isDigit) :
    decimal c = some (c.toNat - 48) := by
  have hbounds : 48 ≤ c.toNat ∧ c.toNat ≤ 57 := by
    simpa [Char.isDigit, UInt32.le_iff_toNat_le] using h
  have hfirst : (decide (48 ≤ c.toNat) && decide (c.toNat < 48 + 10)) = true := by
    simp only [Bool.and_eq_true, decide_eq_true_eq]
    omega
  simp [decimal, decimalZeros, hfirst]

theorem digits_of_isDigit (acc : Nat) {cs : List Char} (h : ∀ c ∈ cs, c.isDigit) :
    digits acc cs = some (Nat.ofDigitChars 10 cs acc) := by
  induction cs generalizing acc with
  | nil => simp [digits]
  | cons c cs ih =>
      have hstep : digits acc (c :: cs) = digits (acc * 10 + (c.toNat - 48)) cs := by
        rw [digits.eq_def]
        simp only [decimal_of_isDigit (h c (by simp))]
      rw [hstep, ih (acc * 10 + (c.toNat - 48)) fun d hd => h d (by simp [hd])]
      rw [Nat.ofDigitChars_cons, Nat.mul_comm]
      rfl

theorem isSpace_of_isDigit {c : Char} (h : c.isDigit) : isSpace c = false := by
  have hbounds : 48 ≤ c.toNat ∧ c.toNat ≤ 57 := by
    simpa [Char.isDigit, UInt32.le_iff_toNat_le] using h
  simp only [isSpace, Bool.or_eq_false_iff, Bool.and_eq_false_iff, decide_eq_false_iff_not]
  omega

theorem isNumeralSpace_of_isDigit {c : Char} (h : c.isDigit) : isNumeralSpace c = false := by
  rw [isNumeralSpace, isSpace_of_isDigit h, Bool.false_and]

theorem trimNumeral_eq_self {chars : List Char} (h : ∀ c ∈ chars, isNumeralSpace c = false) :
    trimNumeral chars = chars := by
  have hdrop : ∀ cs : List Char, (∀ c ∈ cs, isNumeralSpace c = false) →
      cs.dropWhile isNumeralSpace = cs := by
    intro cs hcs
    cases cs with
    | nil => rfl
    | cons c cs => simp [hcs c (by simp)]
  have hreverse : ∀ c ∈ chars.reverse, isNumeralSpace c = false := fun c hc =>
    h c (List.mem_reverse.mp hc)
  rw [trimNumeral, hdrop chars h, hdrop chars.reverse hreverse, List.reverse_reverse]

theorem intOfString_repr (n : Nat) : intOfString n.repr = some (n : Int) := by
  have hdigit : ∀ c ∈ Nat.toDigits 10 n, c.isDigit := fun c hc =>
    Nat.isDigit_of_mem_toDigits (by decide) (by decide) hc
  have htrim : trimNumeral n.repr.toList = Nat.toDigits 10 n := by
    rw [Nat.toList_repr]
    exact trimNumeral_eq_self fun c hc => isNumeralSpace_of_isDigit (hdigit c hc)
  have hmagnitude : magnitude (Nat.toDigits 10 n) = some n := by
    cases hcs : Nat.toDigits 10 n with
    | nil => exact absurd hcs Nat.toDigits_ne_nil
    | cons c cs =>
        rw [hcs] at hdigit
        rw [magnitude, decimal_of_isDigit (hdigit c (by simp)), Option.bind_some,
          digits_of_isDigit _ fun d hd => hdigit d (by simp [hd])]
        have hvalue := Nat.ofDigitChars_ten_toDigits (n := n)
        rw [hcs, Nat.ofDigitChars_cons] at hvalue
        simpa using hvalue
  have hsign : ∀ s : Char, s.isDigit = false → ∀ rest, Nat.toDigits 10 n ≠ s :: rest := by
    intro s hs rest hcs
    have := hdigit s (by simp [hcs])
    simp [hs] at this
  unfold intOfString
  rw [htrim]
  split
  · rename_i rest hcs
    exact absurd hcs (hsign '+' (by decide) rest)
  · rename_i rest hcs
    exact absurd hcs (hsign '-' (by decide) rest)
  · rw [hmagnitude]
    rfl

example : intOfString " +1_2\n" = some 12 := by decide
example : intOfString "1__2" = none := by decide

/-- `int(value)`, absent where Python raises. -/
def intOf : Json → Option Int
  | .bool b => some (if b then 1 else 0)
  | .int n => some n
  | .float q => some (if 0 ≤ q then q.floor else q.ceil)
  | .str s => intOfString s
  | _ => none

end Botman.Library.PythonValue
