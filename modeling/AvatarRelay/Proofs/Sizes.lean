/-
# Sizes of batches

What a batch is counted with and what is written of it grow in step. A segment is counted with
sixteen bytes less than it takes, since identifiers travel behind their length and payloads
do too; so two numbers, the count of a batch and the number of its segments, tell how many
bytes it takes.
-/

import AvatarRelay.Packet

namespace AvatarRelay

-- The zero of a sum is that of the numerals, whatever other instances are in scope.
attribute [local instance (2000)] Zero.ofOfNat0

namespace Segment

/-- Bytes of a segment that it is not counted with: the length of the identifier and that of
the payload. -/
def uncountedBytes : Nat := 16

theorem length_flatMap_byte (bytes : Bytes) :
    (bytes.flatMap Format.byte.write).length = bytes.length := by
  induction bytes with
  | nil => rfl
  | cons byte rest ih =>
    rw [List.flatMap_cons, List.length_append, ih, List.length_cons, Nat.add_comm]
    rfl

theorem length_write (segment : Segment) :
    (format.write segment).length = segment.wireLength + uncountedBytes := by
  have written : format.write segment =
      (Bytes.ofNat 8 segment.sender.bytes.length ++ segment.sender.bytes) ++
        (Bytes.ofNat 8 segment.payload.length ++ segment.payload.flatMap Format.byte.write) := rfl
  rw [written, List.length_append, List.length_append, List.length_append, Bytes.length_ofNat,
    Bytes.length_ofNat, PeerId.length_bytes, length_flatMap_byte, wireLength, peerIdBytes,
    uncountedBytes]
  omega

end Segment

namespace Batch

/-- Appends payloads one after another, and answers each of the sizes. -/
def addAll (batch : Batch) : List (PeerId × Bytes) → List Nat × Batch
  | [] => ([], batch)
  | (sender, payload) :: rest =>
    let (size, batch) := batch.add sender payload
    let (sizes, batch) := batch.addAll rest
    (size :: sizes, batch)

variable (batch : Batch)

theorem wireLength_push (segment : Segment) :
    (batch.push segment).wireLength = batch.wireLength + segment.wireLength := by
  simp [wireLength, push]

/-- Segments are appended in order, and the count grows by what was answered. -/
theorem addAll_spec (added : List (PeerId × Bytes)) :
    (batch.addAll added).2.segments =
        batch.segments ++ added.map (fun (sender, payload) => ⟨sender, payload⟩) ∧
      (batch.addAll added).2.wireLength = batch.wireLength + (batch.addAll added).1.sum := by
  induction added generalizing batch with
  | nil => exact ⟨(List.append_nil _).symm, rfl⟩
  | cons first rest ih =>
    obtain ⟨sender, payload⟩ := first
    obtain ⟨segments, count⟩ := ih (batch.add sender payload).2
    refine ⟨segments.trans ?_, count.trans ?_⟩
    · rw [add, push, List.map_cons, List.append_assoc, List.singleton_append]
    · rw [add, wireLength_push, addAll, List.sum_cons, Nat.add_assoc]
      rfl

/-- Segments take what they are counted with and what they are not counted with. -/
theorem length_flatMap_write (segments : List Segment) :
    (segments.flatMap Segment.format.write).length =
      (segments.map Segment.wireLength).sum + Segment.uncountedBytes * segments.length := by
  induction segments with
  | nil => rfl
  | cons first rest ih =>
    rw [List.flatMap_cons, List.length_append, Segment.length_write, ih, List.map_cons,
      List.sum_cons, List.length_cons, Nat.mul_succ]
    omega

/-- What is written of a batch is told from its count and the number of its segments. -/
theorem length_write :
    (format.write batch).length = 8 + batch.wireLength + Segment.uncountedBytes * batch.size := by
  have written : format.write batch = Bytes.ofNat 8 batch.segments.length ++
      batch.segments.flatMap Segment.format.write := rfl
  rw [written, List.length_append, Bytes.length_ofNat, length_flatMap_write, wireLength, size,
    Nat.add_assoc]

end Batch

theorem OutboundPacket.encodedLength_bulk (batch : Batch) :
    (bulkAvatarData batch).encodedLength = 4 + (Batch.format.write batch).length := by
  have written : format.write (bulkAvatarData batch) =
      Bytes.ofNat 4 0 ++ Batch.format.write batch := rfl
  rw [encodedLength, written, List.length_append, Bytes.length_ofNat]

/-- Batches are accounted for as they are written. A batch put together by appending has just
what was appended, in order; it contains whoever something was appended of; its count is the sum
of the answers; and its bytes are told from its count and the number of its segments, so that
batches which agree in these two take the same bytes, whatever they hold. -/
theorem accounts_of_batch (added : List (PeerId × Bytes)) :
    let (sizes, batch) := Batch.empty.addAll added
    batch.segments.map (fun segment => (segment.sender, segment.payload)) = added ∧
      (∀ sender, batch.contains sender = true ↔ ∃ payload, (sender, payload) ∈ added) ∧
      batch.wireLength = sizes.sum ∧
      (Batch.format.write batch).length = 8 + batch.wireLength + 16 * batch.size ∧
      (OutboundPacket.bulkAvatarData batch).encodedLength =
        (Batch.format.write batch).length + 4 ∧
      ∀ other : Batch, other.wireLength = batch.wireLength → other.size = batch.size →
        (Batch.format.write other).length = (Batch.format.write batch).length ∧
          (OutboundPacket.bulkAvatarData other).encodedLength =
            (OutboundPacket.bulkAvatarData batch).encodedLength := by
  obtain ⟨segments, count⟩ := Batch.empty.addAll_spec added
  refine ⟨?_, fun sender => ?_, ?_, Batch.length_write _, ?_, fun other counted numbered => ?_⟩
  · rw [segments, Batch.empty, List.nil_append, List.map_map]
    exact List.map_id' _
  · rw [Batch.contains, segments, Batch.empty, List.nil_append]
    simp
  · rw [count]
    exact Nat.zero_add _
  · rw [OutboundPacket.encodedLength_bulk, Nat.add_comm]
  · simp only [OutboundPacket.encodedLength_bulk, Batch.length_write, counted, numbered, and_self]

end AvatarRelay
