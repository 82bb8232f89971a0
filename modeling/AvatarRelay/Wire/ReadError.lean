/-
# Why a message cannot be read

The causes for which reading stops, in the terms of the message, and their
wording in one place. For text, the cause also says where the valid part ends and
how long the part is that cannot begin any character.
-/

import AvatarRelay.Wire.Bytes

namespace AvatarRelay

/-- Where a byte string stops being text. -/
structure TextFault where
  /-- Length of the valid part in bytes. -/
  validUpTo : Nat
  /-- Length of the part that no further bytes can complete, or `none` if the
  bytes end inside a character. -/
  faultyLength : Option Nat
  deriving DecidableEq, Repr

inductive ReadError
  /-- The bytes end; one read needs so many more. -/
  | unexpectedEnd (additional : Nat)
  /-- No alternative has this number. -/
  | unknownVariant (index count : Nat)
  /-- A truth value is neither zero nor one. -/
  | invalidBool (byte : Nat)
  /-- The mark of an optional value is neither zero nor one. -/
  | invalidOption (byte : Nat)
  /-- The bytes of a text are no text. -/
  | invalidText (fault : TextFault)
  /-- An identifier is not sixteen bytes long. -/
  | identifierLength (found : Nat)
  deriving DecidableEq, Repr

namespace ReadError

private def detail : ReadError → String
  | unexpectedEnd additional =>
    "UnexpectedEnd \x7b additional: " ++ toString additional ++ " \x7d"
  | unknownVariant index count =>
    "OtherString(\"invalid value: integer `" ++ toString index ++
      "`, expected variant index 0 <= i < " ++ toString count ++ "\")"
  | invalidBool byte => "InvalidBooleanValue(" ++ toString byte ++ ")"
  | invalidOption byte =>
    "UnexpectedVariant \x7b type_name: \"Option<T>\", allowed: Range \x7b min: 0, max: 1 \x7d, "
      ++ "found: " ++ toString byte ++ " \x7d"
  | invalidText fault =>
    let length :=
      match fault.faultyLength with
      | some length => "Some(" ++ toString length ++ ")"
      | none => "None"
    "Utf8 \x7b inner: Utf8Error \x7b valid_up_to: " ++ toString fault.validUpTo
      ++ ", error_len: " ++ length ++ " \x7d \x7d"
  | identifierLength found =>
    "OtherString(\"UUID parsing failed: invalid length: expected 16 bytes, found "
      ++ toString found ++ "\")"

def message (error : ReadError) : String :=
  "Decode error: " ++ error.detail

end ReadError

namespace TextFault

def continues (byte : UInt8) : Bool :=
  0x80 ≤ byte && byte ≤ 0xbf

/-- How a first byte of a longer character goes on: the range of its second byte
and how many further bytes follow that one. -/
def secondRange? (first : UInt8) : Option (UInt8 × UInt8 × Nat) :=
  if 0xc2 ≤ first && first ≤ 0xdf then some (0x80, 0xbf, 0)
  else if first = 0xe0 then some (0xa0, 0xbf, 1)
  else if first = 0xed then some (0x80, 0x9f, 1)
  else if 0xe1 ≤ first && first ≤ 0xef then some (0x80, 0xbf, 1)
  else if first = 0xf0 then some (0x90, 0xbf, 2)
  else if first = 0xf4 then some (0x80, 0x8f, 2)
  else if 0xf1 ≤ first && first ≤ 0xf3 then some (0x80, 0xbf, 2)
  else none

/-- What is wrong with a character of which `seen` bytes are fine and `missing`
more should continue it: the length of the faulty part, or `none` within the inner
option if the bytes end. The outer `none` means that nothing is wrong. -/
def continuationFault? : Nat → Nat → Bytes → Option (Option Nat)
  | _, 0, _ => none
  | _, _ + 1, [] => some none
  | seen, missing + 1, byte :: rest =>
    if continues byte then continuationFault? (seen + 1) missing rest
    else some (some seen)

/-- What is wrong with the first character, as in `continuationFault?`. -/
def characterFault? : Bytes → Option (Option Nat)
  | [] => none
  | first :: rest =>
    if first < 0x80 then none
    else
      match secondRange? first, rest with
      | none, _ => some (some 1)
      | some _, [] => some none
      | some (low, high, further), second :: later =>
        if low ≤ second && second ≤ high then continuationFault? 2 further later
        else some (some 1)

def characterLength (first : UInt8) : Nat :=
  match secondRange? first with
  | none => 1
  | some (_, _, further) => further + 2

/-- The first fault at or after an offset, if the bytes are no text. -/
def find? (offset : Nat) (bytes : Bytes) : Option TextFault :=
  match bytes with
  | [] => none
  | first :: rest =>
    match characterFault? (first :: rest) with
    | some faultyLength => some ⟨offset, faultyLength⟩
    | none =>
      let length := characterLength first
      find? (offset + length) (rest.drop (length - 1))
termination_by bytes.length
decreasing_by rw [List.length_drop, List.length_cons]; omega

end TextFault

end AvatarRelay
