/-
# Numbers and text as bytes

Whole numbers of a fixed width, lowest byte first, and byte strings as lower-case
hexadecimal text. Writing and reading a number undo each other in both directions.
-/

namespace AvatarRelay

abbrev Bytes := List UInt8

namespace Bytes

-- Powers are those of the core library, whatever other instances are in scope.
attribute [local instance (2000)] instPowNat

/-- The lowest bytes of a number, lowest first. -/
def ofNat : Nat → Nat → Bytes
  | 0, _ => []
  | width + 1, value => UInt8.ofNat (value % 256) :: ofNat width (value / 256)

/-- The number whose bytes, lowest first, are given. -/
def toNat : Bytes → Nat
  | [] => 0
  | byte :: rest => byte.toNat + 256 * toNat rest

@[simp]
theorem length_ofNat (width value : Nat) : (ofNat width value).length = width := by
  induction width generalizing value with
  | zero => rfl
  | succ width ih => simp [ofNat, ih]

theorem toNat_ofNat (width value : Nat) (fits : value < 256 ^ width) :
    toNat (ofNat width value) = value := by
  induction width generalizing value with
  | zero => simp at fits; simp [ofNat, toNat, fits]
  | succ width ih =>
    have small : value / 256 < 256 ^ width := by
      rw [Nat.pow_succ] at fits
      exact Nat.div_lt_of_lt_mul (by omega)
    rw [ofNat, toNat, ih _ small, UInt8.toNat_ofNat']
    omega

theorem ofNat_toNat (bytes : Bytes) : ofNat bytes.length (toNat bytes) = bytes := by
  induction bytes with
  | nil => rfl
  | cons byte rest ih =>
    have low := byte.toNat_lt
    have quotient : (byte.toNat + 256 * toNat rest) / 256 = toNat rest := by omega
    have remainder : (byte.toNat + 256 * toNat rest) % 256 = byte.toNat := by omega
    rw [List.length_cons, toNat, ofNat, quotient, remainder, ih, UInt8.ofNat_toNat]

theorem toNat_lt (bytes : Bytes) : toNat bytes < 256 ^ bytes.length := by
  induction bytes with
  | nil => simp [toNat]
  | cons byte rest ih =>
    have low := byte.toNat_lt
    rw [toNat, List.length_cons, Nat.pow_succ]
    omega

def hexDigit (value : Nat) : Char :=
  "0123456789abcdef".toList.getD value '0'

def hexValue? (digit : Char) : Option Nat :=
  if digit.isDigit then some (digit.toNat - '0'.toNat)
  else if 'a' ≤ digit && digit ≤ 'f' then some (digit.toNat - 'a'.toNat + 10)
  else if 'A' ≤ digit && digit ≤ 'F' then some (digit.toNat - 'A'.toNat + 10)
  else none

def hexDigits (bytes : Bytes) : List Char :=
  bytes.flatMap fun byte => [hexDigit (byte.toNat / 16), hexDigit (byte.toNat % 16)]

def toHex (bytes : Bytes) : String :=
  String.ofList bytes.hexDigits

def ofHexDigits? : List Char → Bytes → Option Bytes
  | [], read => some read.reverse
  | [_], _ => none
  | high :: low :: rest, read => do
    let upper ← hexValue? high
    let lower ← hexValue? low
    ofHexDigits? rest (UInt8.ofNat (16 * upper + lower) :: read)

def ofHex? (text : String) : Option Bytes :=
  ofHexDigits? text.toList []

end Bytes

end AvatarRelay
