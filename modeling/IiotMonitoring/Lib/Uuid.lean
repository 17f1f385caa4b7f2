import Mathlib.Data.Nat.Digits.Defs
import Mathlib.Data.Vector.Basic

/-!
# Random UUIDs

Sixteen random bytes, with the bits that make them a UUID of version 4, and the text of their
hexadecimal digits in groups.
-/

namespace IiotMonitoring

/-- Two hexadecimal digits in lower case. -/
def hexPair (byte : UInt8) : List Char :=
  [Nat.digitChar (byte.toNat / 16), Nat.digitChar (byte.toNat % 16)]

def hexText (bytes : List UInt8) : List Char := bytes.flatMap hexPair

/-- Groups of 4, 2, 2, 2 and 6 bytes. -/
def uuidText (bytes : List UInt8) : List Char :=
  hexText (bytes.take 4) ++ '-' :: (hexText ((bytes.drop 4).take 2) ++ '-' ::
    (hexText ((bytes.drop 6).take 2) ++ '-' :: (hexText ((bytes.drop 8).take 2) ++ '-' ::
      hexText (bytes.drop 10))))

/-- Random bytes with the version and the variant. -/
def versionFour (random : List UInt8) : List UInt8 :=
  (random.modify 6 fun byte => (byte &&& 0x0f) ||| 0x40).modify 8 fun byte => (byte &&& 0x3f) ||| 0x80

/-- The text of a random UUID. -/
def randomUuid (random : Vector UInt8 16) : List Char := uuidText (versionFour random.toList)

/-- A character of a text of digits in lower case. -/
def isLowerHex (character : Char) : Bool :=
  character.isDigit || ('a' ≤ character && character ≤ 'f')

theorem isLowerHex_digitChar {digit : Nat} (h : digit < 16) : isLowerHex (Nat.digitChar digit) = true := by
  revert digit
  decide

/-- What stands at a place of the text. -/
def uuidPlace (place : Nat) (character : Char) : Bool :=
  if place = 8 ∨ place = 13 ∨ place = 18 ∨ place = 23 then character = '-' else isLowerHex character

/-- The text of a UUID as it is printed. -/
def isUuidText (text : List Char) : Bool :=
  text.length = 36 && text.zipIdx.all fun place => uuidPlace place.2 place.1

theorem isUuidText_uuidText {bytes : List UInt8} (hlength : bytes.length = 16) :
    isUuidText (uuidText bytes) = true := by
  have hhigh : ∀ byte : UInt8, isLowerHex (Nat.digitChar (byte.toNat / 16)) = true := fun byte =>
    isLowerHex_digitChar (by have := byte.toNat_lt; omega)
  have hlow : ∀ byte : UInt8, isLowerHex (Nat.digitChar (byte.toNat % 16)) = true := fun byte =>
    isLowerHex_digitChar (Nat.mod_lt _ (by decide))
  match bytes, hlength with
  | [a, b, c, d, e, f, g, h, i, j, k, l, m, n, o, p], _ =>
      simp [uuidText, hexText, hexPair, isUuidText, uuidPlace, hhigh, hlow]

theorem isUuidText_randomUuid (random : Vector UInt8 16) : isUuidText (randomUuid random) = true :=
  isUuidText_uuidText (by rw [versionFour, List.length_modify, List.length_modify, Vector.length_toList])

end IiotMonitoring
