import Mathlib.Data.List.Basic

/-!
URL-safe Base64 as Python has it: the encoder, and the decoder, which skips the
bytes that are no digits and stops at the padding of a group.

The decoder is a loop over the bytes with the bits of a group that are not
written yet; it inverts the encoder.
-/

namespace Botman.Library.Base64

/-- The digit of six bits. -/
def digit (n : Nat) : UInt8 :=
  if n < 26 then UInt8.ofNat (65 + n)
  else if n < 52 then UInt8.ofNat (71 + n)
  else if n < 62 then UInt8.ofNat (n - 4)
  else if n = 62 then UInt8.ofNat 45
  else UInt8.ofNat 95

/-- The sign `=`. -/
def pad : UInt8 := UInt8.ofNat 61

/-- The bits of a digit.  `-` and `_` are replaced by `+` and `/` before they are
decoded, so both spellings are digits. -/
def value? (byte : UInt8) : Option Nat :=
  let n := byte.toNat
  if 65 ≤ n ∧ n ≤ 90 then some (n - 65)
  else if 97 ≤ n ∧ n ≤ 122 then some (n - 71)
  else if 48 ≤ n ∧ n ≤ 57 then some (n + 4)
  else if n = 43 ∨ n = 45 then some 62
  else if n = 47 ∨ n = 95 then some 63
  else none

/-- `base64.urlsafe_b64encode`. -/
def urlsafeB64encode : List UInt8 → List UInt8
  | [] => []
  | [a] => [digit (a.toNat / 4), digit (a.toNat % 4 * 16), pad, pad]
  | [a, b] =>
      [digit (a.toNat / 4), digit (a.toNat % 4 * 16 + b.toNat / 16),
        digit (b.toNat % 16 * 4), pad]
  | a :: b :: c :: rest =>
      digit (a.toNat / 4) :: digit (a.toNat % 4 * 16 + b.toNat / 16) ::
        digit (b.toNat % 16 * 4 + c.toNat / 64) :: digit (c.toNat % 64) :: urlsafeB64encode rest

/-- How many digits of a group were read, with the bits left over. -/
inductive Quad where
  | none
  | one (left : Nat)
  | two (left : Nat)
  | three (left : Nat)

/-- The signs of a group that were read. -/
def Quad.position : Quad → Nat
  | .none => 0
  | .one _ => 1
  | .two _ => 2
  | .three _ => 3

/-- The byte that a further digit completes, and the bits left over after it. -/
def Quad.feed : Quad → Nat → List UInt8 × Quad
  | .none, v => ([], .one v)
  | .one left, v => ([UInt8.ofNat (left * 4 + v / 16)], .two (v % 16))
  | .two left, v => ([UInt8.ofNat (left * 16 + v / 4)], .three (v % 4))
  | .three left, v => ([UInt8.ofNat (left * 64 + v)], .none)

/-- The loop of `binascii.a2b_base64`, absent where it raises.  `pads` counts the
padding since the last digit. -/
def decodeFrom (quad : Quad) (pads : Nat) : List UInt8 → Option (List UInt8)
  | [] => if quad.position = 0 then some [] else Option.none
  | byte :: rest =>
      if byte = pad then
        if 2 ≤ quad.position then
          if 4 ≤ quad.position + (pads + 1) then some [] else decodeFrom quad (pads + 1) rest
        else decodeFrom quad pads rest
      else
        match value? byte with
        | Option.none => decodeFrom quad pads rest
        | some v => (decodeFrom (quad.feed v).2 0 rest).map fun out => (quad.feed v).1 ++ out

/-- `base64.urlsafe_b64decode`. -/
def urlsafeB64decode : List UInt8 → Option (List UInt8) :=
  decodeFrom .none 0

theorem value?_digit {n : Nat} (h : n < 64) : value? (digit n) = some n := by
  revert h
  revert n
  decide

theorem digit_ne_pad {n : Nat} (h : n < 64) : digit n ≠ pad := by
  revert h
  revert n
  decide

theorem decodeFrom_digit (quad : Quad) (pads : Nat) {n : Nat} (h : n < 64)
    (rest : List UInt8) :
    decodeFrom quad pads (digit n :: rest) =
      (decodeFrom (quad.feed n).2 0 rest).map fun out => (quad.feed n).1 ++ out := by
  rw [decodeFrom, if_neg (digit_ne_pad h), value?_digit h]

theorem ofNat_of_eq {byte : UInt8} {n : Nat} (h : n = byte.toNat) : UInt8.ofNat n = byte := by
  rw [h, UInt8.ofNat_toNat]

theorem urlsafeB64decode_urlsafeB64encode (bytes : List UInt8) :
    urlsafeB64decode (urlsafeB64encode bytes) = some bytes := by
  unfold urlsafeB64decode
  induction bytes using urlsafeB64encode.induct with
  | case1 => rfl
  | case2 a =>
      have ha := a.toNat_lt
      have hfirst : UInt8.ofNat (a.toNat / 4 * 4 + a.toNat % 4 * 16 / 16) = a :=
        ofNat_of_eq (by omega)
      rw [urlsafeB64encode, decodeFrom_digit _ _ (by omega), decodeFrom_digit _ _ (by omega)]
      exact congrArg (fun byte => some [byte]) hfirst
  | case3 a b =>
      have ha := a.toNat_lt
      have hb := b.toNat_lt
      have hfirst : UInt8.ofNat
          (a.toNat / 4 * 4 + (a.toNat % 4 * 16 + b.toNat / 16) / 16) = a :=
        ofNat_of_eq (by omega)
      have hsecond : UInt8.ofNat
          ((a.toNat % 4 * 16 + b.toNat / 16) % 16 * 16 + b.toNat % 16 * 4 / 4) = b :=
        ofNat_of_eq (by omega)
      rw [urlsafeB64encode, decodeFrom_digit _ _ (by omega), decodeFrom_digit _ _ (by omega),
        decodeFrom_digit _ _ (by omega)]
      exact congrArg₂ (fun x y => some [x, y]) hfirst hsecond
  | case4 a b c rest ih =>
      have ha := a.toNat_lt
      have hb := b.toNat_lt
      have hc := c.toNat_lt
      have hfirst : UInt8.ofNat
          (a.toNat / 4 * 4 + (a.toNat % 4 * 16 + b.toNat / 16) / 16) = a :=
        ofNat_of_eq (by omega)
      have hsecond : UInt8.ofNat
          ((a.toNat % 4 * 16 + b.toNat / 16) % 16 * 16 +
            (b.toNat % 16 * 4 + c.toNat / 64) / 4) = b :=
        ofNat_of_eq (by omega)
      have hthird : UInt8.ofNat
          ((b.toNat % 16 * 4 + c.toNat / 64) % 4 * 64 + c.toNat % 64) = c :=
        ofNat_of_eq (by omega)
      rw [urlsafeB64encode, decodeFrom_digit _ _ (by omega), decodeFrom_digit _ _ (by omega),
        decodeFrom_digit _ _ (by omega), decodeFrom_digit _ _ (by omega)]
      simp only [Quad.feed, ih, hfirst, hsecond, hthird, Option.map_some, List.nil_append,
        List.cons_append]

end Botman.Library.Base64
