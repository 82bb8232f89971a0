/-
# Exact formats

A format is exact on the values that fit it when writing and reading undo each other: a
value that fits is read back from the front of any bytes that begin with what was written,
and whatever is read fits and was written just so. Numbers, truth values, texts and
identifiers are exact, and every way of combining formats keeps exactness. All that limits
what fits are the eight bytes in which lengths travel.
-/

import AvatarRelay.Packet

namespace AvatarRelay

-- Powers are those of the core library, whatever other instances are in scope.
attribute [local instance (2000)] instPowNat

/-- One step after another succeeds when both do. -/
theorem bind_eq_ok_iff {Cause First Second : Type} {first : Except Cause First}
    {next : First → Except Cause Second} {result : Second} :
    first >>= next = .ok result ↔ ∃ value, first = .ok value ∧ next value = .ok result := by
  cases first with
  | error cause => simp [bind, Except.bind]
  | ok value => simp [bind, Except.bind]

/-- The first number that eight bytes do not hold. -/
def lengthLimit : Nat := 256 ^ (8 : Nat)

namespace Format

variable {Value First Second : Type}

/-- Reading gives back what was written, and what is read was written. -/
structure Exact (format : Format Value) (fits : Value → Prop) : Prop where
  read_write : ∀ {value : Value}, fits value → ∀ rest : Bytes,
    format.read (format.write value ++ rest) = .ok (value, rest)
  of_read : ∀ {bytes rest : Bytes} {value : Value}, format.read bytes = .ok (value, rest) →
    fits value ∧ bytes = format.write value ++ rest

/-- What a format decodes are the values that fit, from the bytes that begin with what is
written of them. -/
theorem Exact.decode_eq_ok_iff {format : Format Value} {fits : Value → Prop}
    (exact : format.Exact fits) {bytes : Bytes} {value : Value} :
    format.decode bytes = .ok value ↔
      fits value ∧ ∃ rest, bytes = format.write value ++ rest := by
  unfold decode
  constructor
  · intro decoded
    cases reading : format.read bytes with
    | error cause =>
      rw [reading] at decoded
      cases decoded
    | ok read =>
      obtain ⟨found, rest⟩ := read
      rw [reading] at decoded
      cases decoded
      obtain ⟨fitting, written⟩ := exact.of_read reading
      exact ⟨fitting, rest, written⟩
  · rintro ⟨fitting, rest, rfl⟩
    rw [exact.read_write fitting]
    rfl

theorem Exact.congr {format : Format Value} {fits other : Value → Prop}
    (exact : format.Exact fits) (same : ∀ value, fits value ↔ other value) :
    format.Exact other where
  read_write fitting := exact.read_write ((same _).mpr fitting)
  of_read reading := (exact.of_read reading).imp_left (same _).mp

section Write

theorem write_map (format : Format First) (build : First → Second) (parts : Second → First)
    (value : Second) : (format.map build parts).write value = format.write (parts value) := rfl

theorem write_pair (first : Format First) (second : Format Second) (value : First × Second) :
    (first.pair second).write value = first.write value.1 ++ second.write value.2 := rfl

theorem write_number (width : Nat) (toNat : Value → Nat) (ofNat : Nat → Value)
    (value : Value) : (number width toNat ofNat).write value = Bytes.ofNat width (toNat value) :=
  rfl

theorem write_none (format : Format Value) :
    (Format.option format).write none = byte.write 0 := rfl

theorem write_some (format : Format Value) (value : Value) :
    (Format.option format).write (some value) = byte.write 1 ++ format.write value := rfl

theorem write_list (format : Format Value) (values : List Value) :
    (Format.list format).write values =
      length.write values.length ++ values.flatMap format.write := rfl

theorem write_block (bytes : Bytes) :
    block.write bytes = length.write bytes.length ++ bytes := rfl

theorem write_variants (write : Value → Nat × Bytes) (readers : List (Reader Value))
    (value : Value) : (variants write readers).write value =
      Bytes.ofNat 4 (write value).1 ++ (write value).2 := rfl

end Write

theorem take_eq_ok_iff {count : Nat} {bytes front rest : Bytes} :
    take count bytes = .ok (front, rest) ↔ front.length = count ∧ bytes = front ++ rest := by
  unfold take
  dsimp only
  constructor
  · intro taken
    split at taken
    · next enough =>
      cases taken
      exact ⟨enough, (List.take_append_drop count bytes).symm⟩
    · cases taken
  · rintro ⟨rfl, rfl⟩
    rw [if_pos (by simp), List.take_left, List.drop_left]

theorem Exact.map {format : Format First} {fits : First → Prop} (exact : format.Exact fits)
    {build : First → Second} {parts : Second → First}
    (build_parts : ∀ value, build (parts value) = value)
    (parts_build : ∀ part, parts (build part) = part) :
    (format.map build parts).Exact fun value => fits (parts value) where
  read_write {value} fitting rest := by
    refine bind_eq_ok_iff.mpr ⟨_, exact.read_write fitting rest, ?_⟩
    simp only [build_parts, pure, Except.pure]
  of_read reading := by
    obtain ⟨⟨part, rest⟩, read, built⟩ := bind_eq_ok_iff.mp reading
    cases built
    obtain ⟨fitting, written⟩ := exact.of_read read
    rw [write_map, parts_build]
    exact ⟨fitting, written⟩

theorem Exact.pair {first : Format First} {second : Format Second} {fits : First → Prop}
    {fitsAfter : Second → Prop} (exact : first.Exact fits) (exactAfter : second.Exact fitsAfter) :
    (first.pair second).Exact fun value => fits value.1 ∧ fitsAfter value.2 where
  read_write {value} fitting rest := by
    refine bind_eq_ok_iff.mpr ⟨(value.1, second.write value.2 ++ rest), ?_, ?_⟩
    · rw [write_pair, List.append_assoc, exact.read_write fitting.1]
    · exact bind_eq_ok_iff.mpr ⟨_, exactAfter.read_write fitting.2 rest, rfl⟩
  of_read reading := by
    obtain ⟨⟨one, between⟩, read, later⟩ := bind_eq_ok_iff.mp reading
    obtain ⟨⟨other, rest⟩, readAfter, built⟩ := bind_eq_ok_iff.mp later
    cases built
    obtain ⟨fitting, rfl⟩ := exact.of_read read
    obtain ⟨fittingAfter, rfl⟩ := exactAfter.of_read readAfter
    exact ⟨⟨fitting, fittingAfter⟩, by rw [write_pair, List.append_assoc]⟩

theorem Exact.check {format : Format First} {fits : First → Prop} (exact : format.Exact fits)
    {build : First → Except ReadError Second} {parts : Second → First}
    (build_eq_ok_iff : ∀ part value, build part = .ok value ↔ parts value = part) :
    (format.check build parts).Exact fun value => fits (parts value) where
  read_write {value} fitting rest := by
    refine bind_eq_ok_iff.mpr ⟨_, exact.read_write fitting rest, ?_⟩
    exact bind_eq_ok_iff.mpr ⟨value, (build_eq_ok_iff _ _).mpr rfl, rfl⟩
  of_read reading := by
    obtain ⟨⟨part, rest⟩, read, later⟩ := bind_eq_ok_iff.mp reading
    obtain ⟨value, built, done⟩ := bind_eq_ok_iff.mp later
    cases done
    cases (build_eq_ok_iff _ _).mp built
    exact exact.of_read read

/-- A number of a fixed width. -/
theorem exact_number {width : Nat} {toNat : Value → Nat} {ofNat : Nat → Value}
    (ofNat_toNat : ∀ value, ofNat (toNat value) = value)
    (toNat_ofNat : ∀ number, number < 256 ^ width → toNat (ofNat number) = number) :
    (number width toNat ofNat).Exact fun value => toNat value < 256 ^ width where
  read_write {value} fitting rest := by
    refine bind_eq_ok_iff.mpr ⟨_, take_eq_ok_iff.mpr ⟨Bytes.length_ofNat _ _, rfl⟩, ?_⟩
    simp only [Bytes.toNat_ofNat width _ fitting, ofNat_toNat, pure, Except.pure]
  of_read reading := by
    obtain ⟨⟨front, rest⟩, taken, built⟩ := bind_eq_ok_iff.mp reading
    cases built
    obtain ⟨rfl, rfl⟩ := take_eq_ok_iff.mp taken
    have fitting := Bytes.toNat_lt front
    have same := toNat_ofNat _ fitting
    rw [write_number, same, Bytes.ofNat_toNat]
    exact ⟨fitting, rfl⟩

theorem exact_byte : byte.Exact fun _ => True :=
  (exact_number (fun _ => UInt8.ofNat_toNat) fun _ small =>
    UInt8.toNat_ofNat_of_lt' small).congr fun value => iff_true_intro value.toNat_lt

theorem exact_word16 : word16.Exact fun _ => True :=
  (exact_number (fun _ => UInt16.ofNat_toNat) fun _ small =>
    UInt16.toNat_ofNat_of_lt' small).congr fun value => iff_true_intro value.toNat_lt

theorem exact_word32 : word32.Exact fun _ => True :=
  (exact_number (fun _ => UInt32.ofNat_toNat) fun _ small =>
    UInt32.toNat_ofNat_of_lt' small).congr fun value => iff_true_intro value.toNat_lt

/-- Single-precision numbers keep their bits, whatever they stand for. -/
theorem exact_binary32 : binary32.Exact fun _ => True :=
  exact_word32.map (fun _ => rfl) fun _ => rfl

theorem exact_bool : bool.Exact fun _ => True := by
  apply exact_byte.check
  intro mark value
  split
  · next zero => cases value <;> simp [zero]
  · next nonzero =>
    split
    · next one => cases value <;> simp [one]
    · next other => cases value <;> simp [Ne.symm nonzero, Ne.symm other]

theorem Exact.option {format : Format Value} {fits : Value → Prop} (exact : format.Exact fits) :
    (Format.option format).Exact fun held => ∀ value ∈ held, fits value where
  read_write {held} fitting rest := by
    cases held with
    | none => exact bind_eq_ok_iff.mpr ⟨_, exact_byte.read_write trivial rest, rfl⟩
    | some value =>
      refine bind_eq_ok_iff.mpr ⟨(1, format.write value ++ rest), ?_, ?_⟩
      · rw [write_some, List.append_assoc, exact_byte.read_write trivial]
      · exact bind_eq_ok_iff.mpr ⟨_, exact.read_write (fitting value rfl) rest, rfl⟩
  of_read {bytes rest held} reading := by
    obtain ⟨⟨mark, between⟩, read, later⟩ := bind_eq_ok_iff.mp reading
    obtain ⟨-, rfl⟩ := exact_byte.of_read read
    dsimp only at later
    split at later
    · next zero =>
      cases later
      rw [zero, write_none]
      exact ⟨by simp, rfl⟩
    · split at later
      · next one =>
        obtain ⟨⟨value, last⟩, readValue, built⟩ := bind_eq_ok_iff.mp later
        cases built
        obtain ⟨fitting, rfl⟩ := exact.of_read readValue
        refine ⟨fun other held => ?_, ?_⟩
        · cases held
          exact fitting
        · rw [one, write_some, List.append_assoc]
      · cases later

/-! ## Lists, texts and identifiers -/

theorem exact_length : length.Exact (· < lengthLimit) :=
  exact_number (fun _ => rfl) fun _ _ => rfl

section Many

variable {format : Format Value} {fits : Value → Prop} (exact : format.Exact fits)

include exact

/-- As many values as were written in a row are read back. -/
theorem readMany_write {values : List Value} (fitting : ∀ value ∈ values, fits value)
    (found : List Value) (rest : Bytes) :
    readMany format.read values.length found (values.flatMap format.write ++ rest) =
      .ok (found.reverse ++ values, rest) := by
  induction values generalizing found with
  | nil => simp [readMany]
  | cons first later ih =>
    obtain ⟨fittingFirst, fitting⟩ := List.forall_mem_cons.mp fitting
    rw [List.length_cons, List.flatMap_cons, List.append_assoc, readMany,
      exact.read_write fittingFirst]
    refine (ih fitting (first :: found)).trans ?_
    rw [List.reverse_cons, List.append_assoc, List.singleton_append]

/-- Values that are read in a row were written in a row. -/
theorem of_readMany {count : Nat} {found values : List Value} {bytes rest : Bytes}
    (reading : readMany format.read count found bytes = .ok (values, rest)) :
    ∃ later, values = found.reverse ++ later ∧ later.length = count ∧
      (∀ value ∈ later, fits value) ∧ bytes = later.flatMap format.write ++ rest := by
  induction count generalizing found bytes with
  | zero =>
    cases reading
    exact ⟨[], (List.append_nil _).symm, rfl, by simp, rfl⟩
  | succ count ih =>
    rw [readMany] at reading
    cases read : format.read bytes with
    | error cause =>
      rw [read] at reading
      cases reading
    | ok step =>
      obtain ⟨first, between⟩ := step
      rw [read] at reading
      obtain ⟨fittingFirst, rfl⟩ := exact.of_read read
      obtain ⟨later, rfl, rfl, fitting, rfl⟩ := ih reading
      refine ⟨first :: later, ?_, rfl, List.forall_mem_cons.mpr ⟨fittingFirst, fitting⟩, ?_⟩
      · rw [List.reverse_cons, List.append_assoc, List.singleton_append]
      · rw [List.flatMap_cons, List.append_assoc]

theorem Exact.list : (Format.list format).Exact fun values =>
    values.length < lengthLimit ∧ ∀ value ∈ values, fits value where
  read_write {values} fitting rest := by
    refine bind_eq_ok_iff.mpr ⟨(values.length, values.flatMap format.write ++ rest), ?_, ?_⟩
    · rw [write_list, List.append_assoc, exact_length.read_write fitting.1]
    · exact readMany_write exact fitting.2 [] rest
  of_read reading := by
    obtain ⟨⟨count, between⟩, read, later⟩ := bind_eq_ok_iff.mp reading
    obtain ⟨short, rfl⟩ := exact_length.of_read read
    obtain ⟨values, rfl, rfl, fitting, rfl⟩ := of_readMany exact later
    exact ⟨⟨short, fitting⟩, by rw [write_list, List.append_assoc]⟩

end Many

theorem exact_block : block.Exact (·.length < lengthLimit) where
  read_write {bytes} fitting rest := by
    refine bind_eq_ok_iff.mpr ⟨(bytes.length, bytes ++ rest), ?_, ?_⟩
    · rw [write_block, List.append_assoc, exact_length.read_write fitting]
    · exact take_eq_ok_iff.mpr ⟨rfl, rfl⟩
  of_read reading := by
    obtain ⟨⟨count, between⟩, read, taken⟩ := bind_eq_ok_iff.mp reading
    obtain ⟨short, rfl⟩ := exact_length.of_read read
    obtain ⟨rfl, rfl⟩ := take_eq_ok_iff.mp taken
    exact ⟨short, by rw [write_block, List.append_assoc]⟩

/-- The texts of valid bytes are told apart by their bytes. -/
theorem fromUTF8?_eq_some_iff {bytes : ByteArray} {value : String} :
    String.fromUTF8? bytes = some value ↔ value.toByteArray = bytes := by
  unfold String.fromUTF8?
  constructor
  · intro built
    split at built
    · cases built
      rfl
    · cases built
  · rintro rfl
    rw [dif_pos value.isValidUTF8]
    rfl

theorem exact_text : text.Exact (·.utf8ByteSize < lengthLimit) := by
  refine (exact_block.check fun bytes value => ?_).congr fun value => ?_
  · have same : value.toByteArray = ⟨bytes.toArray⟩ ↔ value.toByteArray.data.toList = bytes := by
      rw [ByteArray.ext_iff, ← Array.toList_inj]
    rw [← same, ← fromUTF8?_eq_some_iff]
    cases String.fromUTF8? ⟨bytes.toArray⟩ with
    | none => simp
    | some found => simp
  · rw [Array.length_toList]
    rfl

theorem exact_peerId : peerId.Exact fun _ => True := by
  refine (exact_block.check fun bytes id => ?_).congr fun id => ?_
  · split
    · next sixteen =>
      rw [Except.ok.injEq]
      constructor
      · rintro rfl
        exact PeerId.bytes_ofBytes bytes sixteen
      · rintro rfl
        exact PeerId.ofBytes_bytes id
    · next other =>
      simp only [reduceCtorEq, false_iff]
      rintro rfl
      exact other (PeerId.length_bytes id)
  · rw [PeerId.length_bytes]
    exact iff_true_intro (by decide)

/-- The reader of an alternative reads back what is written under its number. -/
structure Reads (write : Value → Nat × Bytes) (fits : Value → Prop) (index : Nat)
    (read : Reader Value) : Prop where
  read_write : ∀ {value : Value}, (write value).1 = index → fits value → ∀ rest : Bytes,
    read ((write value).2 ++ rest) = .ok (value, rest)
  of_read : ∀ {bytes rest : Bytes} {value : Value}, read bytes = .ok (value, rest) →
    fits value ∧ (write value).1 = index ∧ bytes = (write value).2 ++ rest

/-- Alternatives under different numbers. -/
theorem exact_variants {write : Value → Nat × Bytes} {readers : List (Reader Value)}
    {fits : Value → Prop} (few : readers.length ≤ 256 ^ (4 : Nat))
    (known : ∀ value, (write value).1 < readers.length)
    (reads : ∀ index read, readers[index]? = some read → Reads write fits index read) :
    (variants write readers).Exact fits where
  read_write {value} fitting rest := by
    have listed := List.getElem?_eq_getElem (known value)
    have small : (write value).1 < 256 ^ (4 : Nat) := Nat.lt_of_lt_of_le (known value) few
    have number : (UInt32.ofNat (write value).1).toNat = (write value).1 :=
      UInt32.toNat_ofNat_of_lt' small
    refine bind_eq_ok_iff.mpr ⟨(UInt32.ofNat (write value).1, (write value).2 ++ rest), ?_, ?_⟩
    · have written : word32.read (word32.write (UInt32.ofNat (write value).1) ++
          ((write value).2 ++ rest)) =
            .ok (UInt32.ofNat (write value).1, (write value).2 ++ rest) :=
        exact_word32.read_write trivial _
      rw [word32, write_number, number] at written
      rw [write_variants, List.append_assoc]
      exact written
    · simp only [number, listed]
      exact (reads _ _ listed).read_write rfl fitting rest
  of_read reading := by
    obtain ⟨⟨index, between⟩, read, later⟩ := bind_eq_ok_iff.mp reading
    obtain ⟨-, rfl⟩ := exact_word32.of_read read
    dsimp only at later
    split at later
    · next listed =>
      obtain ⟨fitting, number, rfl⟩ := (reads _ _ listed).of_read later
      refine ⟨fitting, ?_⟩
      rw [write_variants, List.append_assoc, number]
      rfl
    · cases later

theorem Exact.reads_alternative {format : Format First} {part : First → Prop}
    (exact : format.Exact part) {write : Value → Nat × Bytes} {fits : Value → Prop}
    {index : Nat} {build : First → Value}
    (written : ∀ held, write (build held) = (index, format.write held))
    (fits_build : ∀ held, fits (build held) ↔ part held)
    (built : ∀ value, (write value).1 = index → ∃ held, build held = value) :
    Reads write fits index (alternative format build) where
  read_write {value} numbered fitting rest := by
    obtain ⟨held, rfl⟩ := built value numbered
    rw [written]
    exact bind_eq_ok_iff.mpr
      ⟨_, exact.read_write ((fits_build held).mp fitting) rest, rfl⟩
  of_read reading := by
    obtain ⟨⟨held, rest⟩, read, done⟩ := bind_eq_ok_iff.mp reading
    cases done
    obtain ⟨fitting, rfl⟩ := exact.of_read read
    rw [written]
    exact ⟨(fits_build held).mpr fitting, rfl, rfl⟩

theorem reads_constant {write : Value → Nat × Bytes} {fits : Value → Prop} {index : Nat}
    {value : Value} (written : write value = (index, [])) (fitting : fits value)
    (only : ∀ other, (write other).1 = index → other = value) :
    Reads write fits index (constant value) where
  read_write {other} numbered _ rest := by
    cases only other numbered
    rw [written]
    rfl
  of_read reading := by
    cases reading
    rw [written]
    exact ⟨fitting, rfl, rfl⟩

/-! ## Refusals -/

/-- Bytes that cannot have been written are refused, each for its own cause. -/
structure RefusesForeign : Prop where
  bool : ∀ (mark : UInt8) (rest : Bytes), mark ≠ 0 → mark ≠ 1 →
    Format.bool.decode (mark :: rest) = .error (.invalidBool mark.toNat)
  option : ∀ {Value : Type} (format : Format Value) (mark : UInt8) (rest : Bytes),
    mark ≠ 0 → mark ≠ 1 →
      (Format.option format).decode (mark :: rest) = .error (.invalidOption mark.toNat)
  variant : ∀ {Value : Type} (write : Value → Nat × Bytes) (readers : List (Reader Value))
    (index : UInt32) (rest : Bytes), readers.length ≤ index.toNat →
      (variants write readers).decode (word32.write index ++ rest) =
        .error (.unknownVariant index.toNat readers.length)
  identifier : ∀ bytes rest : Bytes, bytes.length < lengthLimit → bytes.length ≠ 16 →
    peerId.decode (block.write bytes ++ rest) = .error (.identifierLength bytes.length)
  text : ∀ bytes rest : Bytes, bytes.length < lengthLimit →
    ¬ ByteArray.IsValidUTF8 ⟨bytes.toArray⟩ →
      ∃ fault, Format.text.decode (block.write bytes ++ rest) = .error (.invalidText fault)

theorem bind_eq_of_ok {Cause : Type} {first : Except Cause First}
    {next : First → Except Cause Second} {value : First} (succeeds : first = .ok value) :
    first >>= next = next value := by
  rw [succeeds]
  rfl

theorem decode_check_of_error {format : Format First} {fits : First → Prop}
    (exact : format.Exact fits) {build : First → Except ReadError Second}
    {parts : Second → First} {part : First} {cause : ReadError} (fitting : fits part)
    (refused : build part = .error cause) (rest : Bytes) :
    (format.check build parts).decode (format.write part ++ rest) = .error cause := by
  have failed : (format.check build parts).read (format.write part ++ rest) = .error cause := by
    refine (bind_eq_of_ok (exact.read_write fitting rest)).trans ?_
    simp only [refused]
    rfl
  rw [decode, failed]
  rfl

theorem write_byte (mark : UInt8) : byte.write mark = [mark] := by
  have low := mark.toNat_lt
  rw [byte, write_number, Bytes.ofNat, Bytes.ofNat, Nat.mod_eq_of_lt low, UInt8.ofNat_toNat]

theorem refuses_foreign : RefusesForeign where
  bool mark rest nonzero other := by
    have refused : bool.decode (byte.write mark ++ rest) = .error (.invalidBool mark.toNat) :=
      decode_check_of_error exact_byte trivial (by rw [if_neg nonzero, if_neg other]) rest
    rwa [write_byte] at refused
  option format mark rest nonzero other := by
    have failed : (Format.option format).read (mark :: rest) =
        .error (.invalidOption mark.toNat) := by
      have marked : byte.read (byte.write mark ++ rest) = .ok (mark, rest) :=
        exact_byte.read_write trivial rest
      rw [write_byte] at marked
      refine (bind_eq_of_ok marked).trans ?_
      dsimp only
      rw [if_neg nonzero, if_neg other]
    rw [decode, failed]
    rfl
  variant write readers index rest beyond := by
    have failed : (variants write readers).read (word32.write index ++ rest) =
        .error (.unknownVariant index.toNat readers.length) := by
      refine (bind_eq_of_ok (exact_word32.read_write trivial rest)).trans ?_
      simp only [List.getElem?_eq_none beyond]
    rw [decode, failed]
    rfl
  identifier bytes rest short other :=
    decode_check_of_error exact_block short (if_neg other) rest
  text bytes rest short invalid := by
    have nothing : String.fromUTF8? ⟨bytes.toArray⟩ = none := dif_neg invalid
    refine ⟨(TextFault.find? 0 bytes).getD ⟨0, none⟩,
      decode_check_of_error exact_block short ?_ rest⟩
    simp only [nothing]

end Format

end AvatarRelay
