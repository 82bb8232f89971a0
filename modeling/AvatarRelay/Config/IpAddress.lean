/-
# Addresses of network interfaces

Addresses of four bytes are written in decimal, addresses of eight groups in
hexadecimal. Reading takes a bare address, without a zone. Writing shortens the longest
run of zero groups, and the first of several that are equally long.
-/

namespace AvatarRelay

inductive IpAddress
  | v4 (first second third fourth : UInt8)
  /-- Eight groups. -/
  | v6 (groups : List UInt16)
  deriving DecidableEq, Repr

namespace IpAddress

def any : IpAddress := v4 0 0 0 0

def digit? (base : Nat) (character : Char) : Option Nat :=
  let value? :=
    if '0' ≤ character && character ≤ '9' then some (character.toNat - '0'.toNat)
    else if 'a' ≤ character && character ≤ 'f' then some (character.toNat - 'a'.toNat + 10)
    else if 'A' ≤ character && character ≤ 'F' then some (character.toNat - 'A'.toNat + 10)
    else none
  value?.filter (· < base)

def spanDigits (base : Nat) : List Char → List Nat × List Char
  | [] => ([], [])
  | character :: rest =>
    match digit? base character with
    | none => ([], character :: rest)
    | some value =>
      let (digits, rest) := spanDigits base rest
      (value :: digits, rest)

/-- Reads a number of at most so many digits from the front. Where leading zeros
are not allowed, zero itself is a single digit. -/
def number? (base maxDigits : Nat) (leadingZeros : Bool) (characters : List Char) :
    Option (Nat × List Char) :=
  let (digits, rest) := spanDigits base characters
  if digits.isEmpty || maxDigits < digits.length then none
  else if !leadingZeros && 1 < digits.length && digits.head? = some 0 then none
  else some (digits.foldl (fun value digit => base * value + digit) 0, rest)

/-- Reads a decimal number that fits a byte. -/
def byte? (characters : List Char) : Option (UInt8 × List Char) :=
  (number? 10 3 false characters).bind fun (value, rest) =>
    if value < 256 then some (UInt8.ofNat value, rest) else none

def mark? (mark : Char) : List Char → Option (List Char)
  | [] => none
  | character :: rest => if character = mark then some rest else none

def fourBytes? (characters : List Char) :
    Option ((UInt8 × UInt8 × UInt8 × UInt8) × List Char) := do
  let (first, rest) ← byte? characters
  let (second, rest) ← byte? (← mark? '.' rest)
  let (third, rest) ← byte? (← mark? '.' rest)
  let (fourth, rest) ← byte? (← mark? '.' rest)
  pure ((first, second, third, fourth), rest)

def groupOf (high low : UInt8) : UInt16 :=
  UInt16.ofNat (256 * high.toNat + low.toNat)

/-- Reads up to `limit` groups joined by colons from the front, of which the last two
may be written as four bytes; the flag says that they were. What cannot be read as
a further group is left over. -/
def groups (limit : Nat) (first : Bool) (characters : List Char) :
    List UInt16 × Bool × List Char :=
  match limit with
  | 0 => ([], false, characters)
  | limit + 1 =>
    match if first then some characters else mark? ':' characters with
    | none => ([], false, characters)
    | some start =>
      match if 0 < limit then fourBytes? start else none with
      | some ((a, b, c, d), rest) => ([groupOf a b, groupOf c d], true, rest)
      | none =>
        match number? 16 4 true start with
        | none => ([], false, characters)
        | some (value, rest) =>
          let (others, bytes, rest) := groups limit false rest
          (UInt16.ofNat value :: others, bytes, rest)

/-- Reads eight groups, or fewer around one double colon that stands for at least
one zero group. Four bytes only end an address. -/
def eightGroups? (characters : List Char) : Option (List UInt16 × List Char) := do
  let (head, bytes, rest) := groups 8 true characters
  if head.length = 8 then pure (head, rest)
  else if bytes then none
  else
    let rest ← mark? ':' rest
    let rest ← mark? ':' rest
    let (tail, _, rest) := groups (7 - head.length) true rest
    pure (head ++ List.replicate (8 - head.length - tail.length) 0 ++ tail, rest)

def ofString? (text : String) : Option IpAddress :=
  match fourBytes? text.toList with
  | some ((a, b, c, d), []) => some (v4 a b c d)
  | _ =>
    match eightGroups? text.toList with
    | some (groups, []) => some (v6 groups)
    | _ => none

/-! ## Writing -/

def groupText (group : UInt16) : String :=
  String.ofList (Nat.toDigits 16 group.toNat)

def bytesText (first second third fourth : UInt8) : String :=
  ".".intercalate ([first, second, third, fourth].map fun byte => toString byte.toNat)

def zeroRun (groups : List UInt16) : Nat :=
  (groups.takeWhile (· = 0)).length

/-- Start and length of the longest run of zero groups; of several, the first. -/
def longestZeroRun (groups : List UInt16) : Nat × Nat :=
  let starts := List.range groups.length
  starts.foldl
    (fun best start =>
      let length := zeroRun (groups.drop start)
      if best.2 < length then (start, length) else best)
    (0, 0)

def joined (groups : List UInt16) : String :=
  ":".intercalate (groups.map groupText)

/-- Groups with the longest run of at least two zero groups shortened. Addresses
that stand for four bytes show them. -/
def groupsText (groups : List UInt16) : String :=
  match groups with
  | [0, 0, 0, 0, 0, 0xffff, high, low] =>
    let byte (group : UInt16) (shift : UInt16) := (group >>> shift).toUInt8
    "::ffff:" ++ bytesText (byte high 8) (byte high 0) (byte low 8) (byte low 0)
  | _ =>
    let (start, length) := longestZeroRun groups
    if 1 < length then
      joined (groups.take start) ++ "::" ++ joined (groups.drop (start + length))
    else joined groups

protected def toString : IpAddress → String
  | v4 first second third fourth => bytesText first second third fourth
  | v6 groups => groupsText groups

instance : ToString IpAddress := ⟨IpAddress.toString⟩

end IpAddress

end AvatarRelay
