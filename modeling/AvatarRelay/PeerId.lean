/-
# Identifiers of peers

A peer keeps one 128-bit identifier across all its connections. Identifiers are
ordered as numbers, which is also the order of their text form, and finite maps
and sets keyed by them list their entries in that order.
-/

import Std.Data.ExtTreeMap
import Std.Data.ExtTreeSet
import AvatarRelay.Wire.Bytes

namespace AvatarRelay

/-- The stable identifier of a peer. -/
structure PeerId where
  bits : BitVec 128
  deriving DecidableEq, Inhabited

namespace PeerId

def toNat (id : PeerId) : Nat := id.bits.toNat

/-- The identifier with a given number, modulo `2 ^ 128`. -/
def ofNat (value : Nat) : PeerId := ⟨BitVec.ofNat 128 value⟩

theorem toNat_injective {first second : PeerId} (same : first.toNat = second.toNat) :
    first = second := by
  cases first
  cases second
  exact congrArg PeerId.mk (BitVec.eq_of_toNat_eq same)

instance : Ord PeerId where
  compare first second := compare first.toNat second.toNat

instance : Std.TransOrd PeerId where
  eq_swap := @fun first second =>
    @Std.OrientedCmp.eq_swap Nat compare _ first.toNat second.toNat
  isLE_trans := @fun first second third =>
    @Std.TransCmp.isLE_trans Nat compare _ first.toNat second.toNat third.toNat

instance : Std.LawfulEqOrd PeerId where
  eq_of_compare := @fun first second same => toNat_injective
    (@Std.LawfulEqCmp.eq_of_compare Nat compare _ first.toNat second.toNat same)

/-- The sixteen bytes of an identifier, highest first. -/
def bytes (id : PeerId) : Bytes :=
  (Bytes.ofNat 16 id.toNat).reverse

def ofBytes (bytes : Bytes) : PeerId :=
  ofNat (Bytes.toNat bytes.reverse)

@[simp]
theorem length_bytes (id : PeerId) : id.bytes.length = 16 := by
  simp [bytes]

@[simp]
theorem ofBytes_bytes (id : PeerId) : ofBytes id.bytes = id := by
  apply toNat_injective
  have fits : id.toNat < 256 ^ 16 := by
    have bound := id.bits.isLt
    simpa [toNat] using bound
  have bound : id.toNat < 2 ^ 128 := id.bits.isLt
  simp only [ofBytes, bytes, List.reverse_reverse, Bytes.toNat_ofNat 16 _ fits, ofNat]
  exact Nat.mod_eq_of_lt bound

theorem bytes_ofBytes (bytes : Bytes) (sixteen : bytes.length = 16) :
    (ofBytes bytes).bytes = bytes := by
  have bound := Bytes.toNat_lt bytes.reverse
  rw [List.length_reverse, sixteen] at bound
  have value : (ofBytes bytes).toNat = Bytes.toNat bytes.reverse := Nat.mod_eq_of_lt bound
  have back := Bytes.ofNat_toNat bytes.reverse
  rw [List.length_reverse, sixteen] at back
  rw [PeerId.bytes, value, back, List.reverse_reverse]

def groupLengths : List Nat := [8, 4, 4, 4, 12]

/-- Cuts digits into groups of given lengths. -/
def cut : List Nat → List Char → List (List Char)
  | [], _ => []
  | length :: lengths, digits => digits.take length :: cut lengths (digits.drop length)

/-- The text form: hexadecimal digits in groups joined by hyphens. -/
protected def toString (id : PeerId) : String :=
  let groups := cut groupLengths id.bytes.hexDigits
  String.ofList (List.intercalate ['-'] groups)

instance : ToString PeerId := ⟨PeerId.toString⟩

def ofString? (text : String) : Option PeerId := do
  let digits := text.toList.filter (· != '-')
  let bytes ← Bytes.ofHexDigits? digits []
  if bytes.length = 16 && (ofBytes bytes).toString = text.toLower then
    some (ofBytes bytes)
  else none

end PeerId

/-- A finite map from peers, listed in the order of their identifiers. -/
abbrev PeerMap (Value : Type) := Std.ExtTreeMap PeerId Value

abbrev PeerSet := Std.ExtTreeSet PeerId

end AvatarRelay
