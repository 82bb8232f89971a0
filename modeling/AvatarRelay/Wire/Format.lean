/-
# Wire formats

A format writes a value as bytes and reads it back from the front of a byte
string, handing on the bytes that follow. Numbers have a fixed width with the
lowest byte first; texts and lists carry their length; alternatives carry their
number. Formats of messages are put together from the formats of their parts, so
that what holds of the parts holds of the message.
-/

import AvatarRelay.PeerId
import AvatarRelay.Binary32.Basic
import AvatarRelay.Wire.ReadError

namespace AvatarRelay

/-- Reads a value from the front of a byte string. -/
abbrev Reader (Value : Type) := Bytes → Except ReadError (Value × Bytes)

/-- How values are written and read. -/
structure Format (Value : Type) where
  write : Value → Bytes
  read : Reader Value

namespace Format

variable {Value First Second : Type}

/-- Reads a value and forgets what follows it. -/
def decode (format : Format Value) (bytes : Bytes) : Except ReadError Value :=
  (format.read bytes).map Prod.fst

def take (count : Nat) (bytes : Bytes) : Except ReadError (Bytes × Bytes) :=
  let front := bytes.take count
  if front.length = count then .ok (front, bytes.drop count)
  else .error (.unexpectedEnd (count - front.length))

def map (format : Format First) (build : First → Second) (parts : Second → First) :
    Format Second where
  write value := format.write (parts value)
  read bytes := do
    let (part, rest) ← format.read bytes
    pure (build part, rest)

def pair (first : Format First) (second : Format Second) : Format (First × Second) where
  write value := first.write value.1 ++ second.write value.2
  read bytes := do
    let (one, rest) ← first.read bytes
    let (other, rest) ← second.read rest
    pure ((one, other), rest)

/-- A value whose bytes are checked and converted after they were read. -/
def check (format : Format First) (build : First → Except ReadError Second)
    (parts : Second → First) : Format Second where
  write value := format.write (parts value)
  read bytes := do
    let (part, rest) ← format.read bytes
    let value ← build part
    pure (value, rest)

def number (width : Nat) (toNat : Value → Nat) (ofNat : Nat → Value) : Format Value where
  write value := Bytes.ofNat width (toNat value)
  read bytes := do
    let (front, rest) ← take width bytes
    pure (ofNat (Bytes.toNat front), rest)

def byte : Format UInt8 := number 1 UInt8.toNat UInt8.ofNat

def word16 : Format UInt16 := number 2 UInt16.toNat UInt16.ofNat

def word32 : Format UInt32 := number 4 UInt32.toNat UInt32.ofNat

/-- A single-precision number, bit for bit. -/
def binary32 : Format Binary32 := word32.map Binary32.mk Binary32.bits

/-- A truth value: one byte, zero or one. -/
def bool : Format Bool :=
  byte.check
    (fun mark =>
      if mark = 0 then .ok false
      else if mark = 1 then .ok true
      else .error (.invalidBool mark.toNat))
    (fun value => if value then 1 else 0)

/-- A value that may be absent: one byte, zero or one, and the value after a one. -/
def option (format : Format Value) : Format (Option Value) where
  write
    | none => byte.write 0
    | some value => byte.write 1 ++ format.write value
  read bytes := do
    let (mark, rest) ← byte.read bytes
    if mark = 0 then pure (none, rest)
    else if mark = 1 then do
      let (value, rest) ← format.read rest
      pure (some value, rest)
    else .error (.invalidOption mark.toNat)

/-! ## Lists, texts and identifiers -/

/-- A length of eight bytes. -/
def length : Format Nat := number 8 id id

/-- Reads a number of values in a row, collected behind those already read. -/
def readMany (read : Reader Value) : Nat → List Value → Reader (List Value)
  | 0, found, bytes => .ok (found.reverse, bytes)
  | count + 1, found, bytes =>
    match read bytes with
    | .ok (value, rest) => readMany read count (value :: found) rest
    | .error error => .error error

/-- A list: its length, then its elements one by one. -/
def list (format : Format Value) : Format (List Value) where
  write values := length.write values.length ++ values.flatMap format.write
  read bytes := do
    let (count, rest) ← length.read bytes
    readMany format.read count [] rest

/-- A block of bytes: its length, then all of it in one read. -/
def block : Format Bytes where
  write bytes := length.write bytes.length ++ bytes
  read bytes := do
    let (count, rest) ← length.read bytes
    take count rest

def text : Format String :=
  block.check
    (fun bytes =>
      match String.fromUTF8? ⟨bytes.toArray⟩ with
      | some value => .ok value
      | none => .error (.invalidText ((TextFault.find? 0 bytes).getD ⟨0, none⟩)))
    (fun value => value.toByteArray.data.toList)

/-- The identifier of a peer: a block of sixteen bytes. -/
def peerId : Format PeerId :=
  block.check
    (fun bytes =>
      if bytes.length = 16 then .ok (PeerId.ofBytes bytes)
      else .error (.identifierLength bytes.length))
    PeerId.bytes

/-- One of several alternatives: its number in four bytes, then what it holds. -/
def variants (write : Value → Nat × Bytes) (readers : List (Reader Value)) :
    Format Value where
  write value := Bytes.ofNat 4 (write value).1 ++ (write value).2
  read bytes := do
    let (index, rest) ← word32.read bytes
    match readers[index.toNat]? with
    | some read => read rest
    | none => .error (.unknownVariant index.toNat readers.length)

def alternative (format : Format First) (build : First → Value) : Reader Value :=
  fun bytes => do
    let (part, rest) ← format.read bytes
    pure (build part, rest)

def constant (value : Value) : Reader Value :=
  fun bytes => .ok (value, bytes)

end Format

end AvatarRelay
