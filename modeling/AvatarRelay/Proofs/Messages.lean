/-
# Messages on the wire

Every kind of message has an exact format: what is written of a message is read back
whatever follows it, and bytes that are read begin with what is written of the message. A
message has one written form, and bytes that could not have been written are refused.
-/

import AvatarRelay.Proofs.Formats

namespace AvatarRelay

theorem Vec3.exact_format : Vec3.format.Exact fun _ => True :=
  ((Format.exact_binary32.pair (Format.exact_binary32.pair Format.exact_binary32)).map
    (fun _ => rfl) fun _ => rfl).congr fun _ => by simp

theorem Quat.exact_format : Quat.format.Exact fun _ => True :=
  ((Format.exact_binary32.pair (Format.exact_binary32.pair
    (Format.exact_binary32.pair Format.exact_binary32))).map
      (fun _ => rfl) fun _ => rfl).congr fun _ => by simp

theorem Joint.exact_format : Joint.format.Exact fun _ => True :=
  ((Quat.exact_format.pair Vec3.exact_format).map (fun _ => rfl) fun _ => rfl).congr
    fun _ => by simp

namespace Pose

/-- Eight bytes hold the number of joints. -/
def Fits (pose : Pose) : Prop := pose.joints.length < lengthLimit

theorem exact_format : Pose.format.Exact Fits :=
  ((Vec3.exact_format.pair (Quat.exact_format.pair (Format.exact_binary32.pair
    (Vec3.exact_format.option.pair Joint.exact_format.list)))).map
      (fun _ => rfl) fun _ => rfl).congr fun _ => by simp [Fits]

end Pose

namespace Update

def Fits (update : Update) : Prop := update.joints.length < lengthLimit

theorem exact_format : Update.format.Exact Fits :=
  ((Vec3.exact_format.pair (Quat.exact_format.pair (Format.exact_binary32.pair
    (Format.exact_bool.pair (Format.exact_word16.pair
      (Format.exact_word16.pair Joint.exact_format).list))))).map
        (fun _ => rfl) fun _ => rfl).congr fun _ => by simp [Fits]

end Update

namespace Identity

/-- Eight bytes hold the length of each text and the number of attachments. -/
def Fits (identity : Identity) : Prop :=
  identity.displayName.utf8ByteSize < lengthLimit ∧
    identity.modelUrl.utf8ByteSize < lengthLimit ∧
      identity.attachments.length < lengthLimit ∧
        ∀ attachment ∈ identity.attachments, attachment.utf8ByteSize < lengthLimit

theorem exact_format : Identity.format.Exact Fits :=
  (Format.exact_text.pair (Format.exact_text.pair Format.exact_text.list)).map
    (fun _ => rfl) fun _ => rfl

end Identity

namespace Segment

def Fits (segment : Segment) : Prop := segment.payload.length < lengthLimit

theorem exact_format : Segment.format.Exact Fits :=
  ((Format.exact_peerId.pair Format.exact_byte.list).map (fun _ => rfl) fun _ => rfl).congr
    fun _ => by simp [Fits]

end Segment

namespace Batch

/-- Eight bytes hold the number of segments and the length of each payload. -/
def Fits (batch : Batch) : Prop :=
  batch.segments.length < lengthLimit ∧ ∀ segment ∈ batch.segments, segment.Fits

theorem exact_format : Batch.format.Exact Fits :=
  Segment.exact_format.list.map (fun _ => rfl) fun _ => rfl

end Batch

theorem KillReason.exact_format : KillReason.format.Exact fun _ => True := by
  refine Format.exact_variants (by decide) (fun reason => by cases reason <;> decide) ?_
  intro index read listed
  match index, listed with
  | 0, listed =>
    cases listed
    exact Format.reads_constant rfl trivial fun other numbered => by cases other <;> trivial
  | 1, listed =>
    cases listed
    exact Format.reads_constant rfl trivial fun other numbered => by cases other <;> trivial

namespace InboundPacket

def Fits : InboundPacket → Prop
  | avatarData _ pose => pose.Fits
  | avatarIdentity identity => identity.Fits
  | nodeIgnore others _ => others.length < lengthLimit
  | killAvatar | radiusIgnore _ => True

theorem exact_format : InboundPacket.format.Exact Fits := by
  refine Format.exact_variants (by decide) (fun packet => by cases packet <;> simp) ?_
  intro index read listed
  match index, listed with
  | 0, listed =>
    cases listed
    refine (Format.exact_word16.pair Pose.exact_format).reads_alternative (fun _ => rfl)
      (fun _ => by simp [Fits]) fun packet numbered => ?_
    cases packet <;> simp at numbered ⊢
  | 1, listed =>
    cases listed
    refine Identity.exact_format.reads_alternative (fun _ => rfl) (fun _ => Iff.rfl)
      fun packet numbered => ?_
    cases packet <;> simp at numbered ⊢
  | 2, listed =>
    cases listed
    refine Format.reads_constant rfl trivial fun packet numbered => ?_
    cases packet <;> simp at numbered ⊢
  | 3, listed =>
    cases listed
    refine (Format.exact_peerId.list.pair Format.exact_bool).reads_alternative (fun _ => rfl)
      (fun _ => by simp [Fits]) fun packet numbered => ?_
    cases packet <;> simp at numbered ⊢
  | 4, listed =>
    cases listed
    refine Format.exact_bool.reads_alternative (fun _ => rfl) (fun _ => Iff.rfl)
      fun packet numbered => ?_
    cases packet <;> simp at numbered ⊢

end InboundPacket

namespace OutboundPacket

def Fits : OutboundPacket → Prop
  | bulkAvatarData batch => batch.Fits
  | avatarIdentity _ identity => identity.Fits
  | killAvatar .. => True

theorem exact_format : OutboundPacket.format.Exact Fits := by
  refine Format.exact_variants (by decide) (fun packet => by cases packet <;> simp) ?_
  intro index read listed
  match index, listed with
  | 0, listed =>
    cases listed
    refine Batch.exact_format.reads_alternative (fun _ => rfl) (fun _ => Iff.rfl)
      fun packet numbered => ?_
    cases packet <;> simp at numbered ⊢
  | 1, listed =>
    cases listed
    refine (Format.exact_peerId.pair Identity.exact_format).reads_alternative (fun _ => rfl)
      (fun _ => by simp [Fits]) fun packet numbered => ?_
    cases packet <;> simp at numbered ⊢
  | 2, listed =>
    cases listed
    refine (Format.exact_peerId.pair KillReason.exact_format).reads_alternative
      (fun _ => rfl) (fun _ => by simp [Fits]) fun packet numbered => ?_
    cases packet <;> simp at numbered ⊢

end OutboundPacket

/-- What is written and read on its own. -/
inductive MessageKind
  | inboundPacket
  | outboundPacket
  | batch
  | segment
  | update
  | pose
  | identity
  deriving DecidableEq, Repr

namespace MessageKind

def Message : MessageKind → Type
  | inboundPacket => InboundPacket
  | outboundPacket => OutboundPacket
  | batch => Batch
  | segment => Segment
  | update => Update
  | pose => Pose
  | identity => Identity

def format : (kind : MessageKind) → Format kind.Message
  | inboundPacket => InboundPacket.format
  | outboundPacket => OutboundPacket.format
  | batch => Batch.format
  | segment => Segment.format
  | update => Update.format
  | pose => Pose.format
  | identity => Identity.format

def Fits : (kind : MessageKind) → kind.Message → Prop
  | inboundPacket => InboundPacket.Fits
  | outboundPacket => OutboundPacket.Fits
  | batch => Batch.Fits
  | segment => Segment.Fits
  | update => Update.Fits
  | pose => Pose.Fits
  | identity => Identity.Fits

theorem exact_format (kind : MessageKind) : kind.format.Exact kind.Fits := by
  cases kind with
  | inboundPacket => exact InboundPacket.exact_format
  | outboundPacket => exact OutboundPacket.exact_format
  | batch => exact Batch.exact_format
  | segment => exact Segment.exact_format
  | update => exact Update.exact_format
  | pose => exact Pose.exact_format
  | identity => exact Identity.exact_format

end MessageKind

/-- What is written of a message is read back, whatever follows it. Single-precision numbers
come back bit for bit. -/
theorem decode_written (kind : MessageKind) {message : kind.Message} (fits : kind.Fits message)
    (rest : Bytes) : kind.format.decode (kind.format.write message ++ rest) = .ok message :=
  kind.exact_format.decode_eq_ok_iff.mpr ⟨fits, rest, rfl⟩

/-- A pose with a NaN that carries a payload, a negative zero and two joints is read back in
front of more bytes. -/
theorem decode_written_pose :
    let nan : Binary32 := ⟨0xffc12345⟩
    let negativeZero : Binary32 := ⟨0x80000000⟩
    let pose : Pose :=
      { position := ⟨nan, negativeZero, 1⟩
        orientation := default
        scale := negativeZero
        corner := some ⟨0, nan, 0⟩
        joints := [default, ⟨⟨nan, 0, 0, 1⟩, Vec3.zero⟩] }
    MessageKind.inboundPacket.Fits (InboundPacket.avatarData 65535 pose) ∧
      InboundPacket.format.decode
        (InboundPacket.format.write (.avatarData 65535 pose) ++ [0xff, 0x01]) =
          .ok (.avatarData 65535 pose) := by
  intro nan negativeZero pose
  have fits : MessageKind.inboundPacket.Fits (InboundPacket.avatarData 65535 pose) := by
    change 2 < lengthLimit
    decide
  exact ⟨fits, decode_written .inboundPacket fits [0xff, 0x01]⟩

/-- Messages have one written form. A message is decoded from exactly those bytes that begin
with what is written of it, so bytes that are read to their end are told from the message
alone; and what cannot have been written is refused. -/
theorem written_form_unique :
    (∀ (kind : MessageKind) (bytes : Bytes) (message : kind.Message),
      (kind.format.decode bytes = .ok message ↔
        kind.Fits message ∧ ∃ rest, bytes = kind.format.write message ++ rest) ∧
      ∀ other : Bytes, kind.format.read bytes = .ok (message, []) →
        kind.format.read other = .ok (message, []) → bytes = other) ∧
    Format.RefusesForeign := by
  refine ⟨fun kind bytes message => ⟨kind.exact_format.decode_eq_ok_iff, ?_⟩,
    Format.refuses_foreign⟩
  intro other read readOther
  have whole : bytes = kind.format.write message ++ [] := (kind.exact_format.of_read read).2
  have same : other = kind.format.write message ++ [] := (kind.exact_format.of_read readOther).2
  rw [whole, same]

end AvatarRelay
