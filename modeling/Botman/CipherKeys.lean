import Botman.Library.Base64

/-!
The keys that `ai_services` and `integrations.telegram` derive from
`SECRET_KEY`.

One cuts the bytes of the setting, the other its characters.  The results are
the same key exactly where the first characters do not take more bytes than the
key has.
-/

namespace Botman.CipherKeys

open Botman.Library.Base64

structure Settings where
  secretKey : String
  /-- The variable `TELEGRAM_TOKEN_ENCRYPTION_KEY` of the environment. -/
  encryptionKey : Option String

/-- `str.encode()`. -/
def encode (text : List Char) : List UInt8 :=
  text.flatMap String.utf8EncodeChar

/-- `bytes.ljust(width, b'0')`. -/
def ljust (bytes : List UInt8) (width : Nat) : List UInt8 :=
  bytes ++ List.replicate (width - bytes.length) (UInt8.ofNat 48)

/-- The two halves of a key. -/
structure Fernet where
  signingKey : List UInt8
  encryptionKey : List UInt8

/-- The constructor of `Fernet`, absent where it raises `ValueError`. -/
def fernet (key : List UInt8) : Option Fernet :=
  (urlsafeB64decode key).bind fun bytes =>
    if bytes.length = 32 then
      some { signingKey := bytes.take 16, encryptionKey := bytes.drop 16 }
    else none

namespace AiServices

/-- The `key` of `get_cipher` before it is encoded in Base64. -/
def keyMaterial (settings : Settings) : List UInt8 :=
  let key := encode settings.secretKey.toList
  if key.length < 32 then ljust key 32 else key.take 32

/-- `ai_services.utils.get_cipher`. -/
def getCipher (settings : Settings) : Option Fernet :=
  fernet (urlsafeB64encode (keyMaterial settings))

end AiServices

namespace Telegram

/-- What the fallback of `get_cipher` encodes in Base64. -/
def keyMaterial (settings : Settings) : List UInt8 :=
  ljust (encode (settings.secretKey.toList.take 32)) 32

/-- `integrations.telegram.utils.get_cipher`. -/
def getCipher (settings : Settings) : Option Fernet :=
  let key := settings.encryptionKey.getD ""
  if key = "" then fernet (urlsafeB64encode (keyMaterial settings))
  else fernet (encode key.toList)

end Telegram

theorem fernet_urlsafeB64encode (material : List UInt8) :
    fernet (urlsafeB64encode material) =
      if material.length = 32 then some ⟨material.take 16, material.drop 16⟩ else none := by
  rw [fernet, urlsafeB64decode_urlsafeB64encode, Option.bind_some]

section Bytes

theorem length_le_length_encode (text : List Char) : text.length ≤ (encode text).length := by
  induction text with
  | nil => exact Nat.le_refl _
  | cons c rest ih =>
      have hpos := c.utf8Size_pos
      rw [encode, List.flatMap_cons, List.length_append, String.length_utf8EncodeChar,
        List.length_cons]
      unfold encode at ih
      omega

theorem length_ljust (bytes : List UInt8) (width : Nat) :
    (ljust bytes width).length = max bytes.length width := by
  rw [ljust, List.length_append, List.length_replicate]
  omega

theorem ljust_of_le {bytes : List UInt8} {width : Nat} (h : width ≤ bytes.length) :
    ljust bytes width = bytes := by
  rw [ljust, Nat.sub_eq_zero_of_le h, List.replicate_zero, List.append_nil]

theorem length_encode_replicate (c : Char) (count : Nat) :
    (encode (List.replicate count c)).length = count * c.utf8Size := by
  induction count with
  | zero => rw [Nat.zero_mul]; rfl
  | succ count ih =>
      unfold encode at ih ⊢
      rw [List.replicate_succ, List.flatMap_cons, List.length_append, ih,
        String.length_utf8EncodeChar, Nat.succ_mul, Nat.add_comm]

theorem encode_take_append (text : List Char) (count : Nat) :
    encode (text.take count) ++ encode (text.drop count) = encode text := by
  rw [encode, encode, ← List.flatMap_append, List.take_append_drop, encode]

end Bytes

variable {settings : Settings}

theorem AiServices.length_keyMaterial (settings : Settings) :
    (AiServices.keyMaterial settings).length = 32 := by
  unfold AiServices.keyMaterial
  dsimp only
  split
  · rw [length_ljust]
    omega
  · rw [List.length_take]
    omega

theorem Telegram.length_keyMaterial_iff :
    (Telegram.keyMaterial settings).length = 32 ↔
      (encode (settings.secretKey.toList.take 32)).length ≤ 32 := by
  rw [Telegram.keyMaterial, length_ljust]
  omega

theorem keyMaterial_eq_of_fits
    (h : (encode (settings.secretKey.toList.take 32)).length ≤ 32) :
    AiServices.keyMaterial settings = Telegram.keyMaterial settings := by
  -- characters that fit are the whole setting, or 32 of one byte each
  have hsplit := encode_take_append settings.secretKey.toList 32
  by_cases hshort : settings.secretKey.toList.length ≤ 32
  · rw [List.take_of_length_le hshort] at h
    rw [AiServices.keyMaterial, Telegram.keyMaterial, List.take_of_length_le hshort]
    split
    · rfl
    · rw [ljust_of_le (by omega), List.take_of_length_le h]
  · have hchars := length_le_length_encode (settings.secretKey.toList.take 32)
    rw [List.length_take, Nat.min_eq_left (by omega)] at hchars
    have hbytes : (encode (settings.secretKey.toList.take 32)).length = 32 :=
      Nat.le_antisymm h hchars
    have hlong : ¬ (encode settings.secretKey.toList).length < 32 := by
      rw [← hsplit, List.length_append]
      omega
    rw [AiServices.keyMaterial, Telegram.keyMaterial, ljust_of_le hchars, if_neg hlong, ← hsplit,
      List.take_append_of_le_length hchars, List.take_of_length_le h]

/-- No variable, and a secret key of fewer than 32 characters. -/
def shortKey : Settings where
  secretKey := "django-insecure-key"
  encryptionKey := none

/-- 32 characters of two bytes each. -/
def accentedKey : Settings where
  secretKey := String.ofList (List.replicate 32 'é')
  encryptionKey := none

end Botman.CipherKeys
