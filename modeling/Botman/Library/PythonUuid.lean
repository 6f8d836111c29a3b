import Botman.Library.PythonValue

/-!
The texts that Python's `uuid.UUID` accepts, down to the conversion
`int(text, 16)` that it ends with, and the characters of `str.isdigit`.

`UUID` is more liberal than its documentation: hyphens may stand anywhere, and
what remains may have a sign, a `0x`, underscores and space around it, as long
as it is 32 characters long.
-/

namespace Botman.Library.PythonUuid

open Botman.Library.PythonValue

section Numerals

/-- The value of a hexadecimal digit; a decimal digit may be of any script. -/
def hexValue (c : Char) : Option Nat :=
  match decimal c with
  | some d => some d
  | none =>
      if 'a' ≤ c ∧ c ≤ 'f' then some (c.toNat - 87)
      else if 'A' ≤ c ∧ c ≤ 'F' then some (c.toNat - 55)
      else none

/-- Hexadecimal digits with single underscores between them. -/
def hexDigits (acc : Nat) : List Char → Option Nat
  | [] => some acc
  | c :: rest =>
      match hexValue c with
      | some d => hexDigits (acc * 16 + d) rest
      | none =>
          match rest with
          | next :: rest' =>
              if c = '_' then
                match hexValue next with
                | some d => hexDigits (acc * 16 + d) rest'
                | none => none
              else none
          | [] => none

/-- Hexadecimal digits as a number; there must be one. -/
def hexNumeral : List Char → Option Nat
  | [] => none
  | c :: rest => (hexValue c).bind fun d => hexDigits d rest

/-- A numeral without its sign: `0x` may come first, and then one underscore. -/
def hexMagnitude : List Char → Option Nat
  | zero :: x :: rest =>
      if decimal zero = some 0 ∧ (x = 'x' ∨ x = 'X') then
        match rest with
        | '_' :: rest' => hexNumeral rest'
        | _ => hexNumeral rest
      else hexNumeral (zero :: x :: rest)
  | chars => hexNumeral chars

/-- `int(text, 16)`, absent where Python raises `ValueError`. -/
def intOfHex (chars : List Char) : Option Int :=
  match trimNumeral chars with
  | '+' :: rest => (hexMagnitude rest).map Int.ofNat
  | '-' :: rest => (hexMagnitude rest).map fun n => -Int.ofNat n
  | rest => (hexMagnitude rest).map Int.ofNat

end Numerals

section Texts

/-- `text.replace(pattern, '')`.  The first argument counts the characters left
of an occurrence that is being removed. -/
def removeAll (pattern : List Char) : Nat → List Char → List Char
  | _, [] => []
  | 0, c :: rest =>
      if pattern.isPrefixOf (c :: rest) then removeAll pattern (pattern.length - 1) rest
      else c :: removeAll pattern 0 rest
  | count + 1, _ :: rest => removeAll pattern count rest

def isBrace (c : Char) : Bool :=
  c = '\x7b' || c = '\x7d'

/-- The digits that `UUID` looks for: the text without `urn:`, then `uuid:`, the
braces around it and its hyphens. -/
def uuidDigits (text : String) : List Char :=
  let unprefixed := removeAll "uuid:".toList 0 (removeAll "urn:".toList 0 text.toList)
  let bare := ((unprefixed.dropWhile isBrace).reverse.dropWhile isBrace).reverse
  bare.filter fun c => c ≠ '-'

/-- `UUID(int=n)`, which raises outside the 128 bits. -/
def uuidOfInt (n : Int) : Option (BitVec 128) :=
  if 0 ≤ n ∧ n < 340282366920938463463374607431768211456 then some (BitVec.ofInt 128 n)
  else none

/-- `UUID(text)`, absent where it raises `ValueError`. -/
def uuidOfString (text : String) : Option (BitVec 128) :=
  let hex := uuidDigits text
  if hex.length ≠ 32 then none else (intOfHex hex).bind uuidOfInt

/-- `UUIDField.to_python` of the value of a lookup, absent where it raises
`ValidationError`. -/
def uuidLookup : Json → Option (BitVec 128)
  | .bool b => uuidOfInt (if b then 1 else 0)
  | .int n => uuidOfInt n
  | .str s => uuidOfString s
  | _ => none

/-- Digits of Unicode 15.0 that are not decimal, first and last of each run. -/
def otherDigits : List (Nat × Nat) :=
  [(0xb2, 0xb3), (0xb9, 0xb9), (0x1369, 0x1371), (0x19da, 0x19da), (0x2070, 0x2070),
    (0x2074, 0x2079), (0x2080, 0x2089), (0x2460, 0x2468), (0x2474, 0x247c), (0x2488, 0x2490),
    (0x24ea, 0x24ea), (0x24f5, 0x24fd), (0x24ff, 0x24ff), (0x2776, 0x277e), (0x2780, 0x2788),
    (0x278a, 0x2792), (0x10a40, 0x10a43), (0x10e60, 0x10e68), (0x11052, 0x1105a),
    (0x1f100, 0x1f10a)]

/-- `str.isdigit` on one character: decimal digits and others, such as
superscripts. -/
def isDigitChar (c : Char) : Bool :=
  (decimal c).isSome || otherDigits.any fun run => run.1 ≤ c.toNat && c.toNat ≤ run.2

/-- `text.isdigit()`. -/
def isDigit (text : String) : Bool :=
  !text.toList.isEmpty && text.toList.all isDigitChar

/-- `int(text)` of a text of digits, whose number is limited. -/
def intOfDigits (text : String) : Option Int :=
  if 4300 < text.length then none else intOfString text

example : uuidOfString "urn:uuid:0x-1_1" = none := by decide
example : isDigit "²" = true ∧ intOfDigits "²" = none := by decide

end Texts

end Botman.Library.PythonUuid
