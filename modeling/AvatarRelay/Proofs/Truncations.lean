/-
# Messages that were cut off

What is left of a message that was cut off cannot be read: the bytes end before the message
does. Reading notices this at the one part in which the cut lies, whatever is nested in what,
and then asks for at least one byte and for no more than were lost. It never takes a cut
message for a shorter one or for a malformed one.
-/

import AvatarRelay.Proofs.Messages

namespace AvatarRelay

-- Powers are those of the core library, whatever other instances are in scope.
attribute [local instance (2000)] instPowNat

namespace ReadError

variable {Value Other : Type}

/-- Reading failed because the bytes end, and asked for some further bytes within a limit. -/
def AsksWithin (limit : Nat) (outcome : Except ReadError Value) : Prop :=
  ∃ additional, outcome = .error (.unexpectedEnd additional) ∧
    1 ≤ additional ∧ additional ≤ limit

namespace AsksWithin

variable {limit wider : Nat} {outcome : Except ReadError Value}

theorem mono (asks : AsksWithin limit outcome) (within : limit ≤ wider) :
    AsksWithin wider outcome := by
  obtain ⟨additional, failed, some, few⟩ := asks
  exact ⟨additional, failed, some, Nat.le_trans few within⟩

theorem bind (asks : AsksWithin limit outcome) (next : Value → Except ReadError Other) :
    AsksWithin limit (outcome >>= next) := by
  obtain ⟨additional, rfl, some, few⟩ := asks
  exact ⟨additional, rfl, some, few⟩

theorem map (asks : AsksWithin limit outcome) (change : Value → Other) :
    AsksWithin limit (outcome.map change) := by
  obtain ⟨additional, rfl, some, few⟩ := asks
  exact ⟨additional, rfl, some, few⟩

end AsksWithin

end ReadError

open ReadError

/-- A cut through two strings of bytes goes through the first, or through the second behind
all of the first. -/
theorem cut_append {first second front lost : Bytes} (cut : first ++ second = front ++ lost) :
    (∃ missing, missing ≠ [] ∧ first = front ++ missing ∧ lost = missing ++ second) ∨
      ∃ middle, front = first ++ middle ∧ second = middle ++ lost := by
  rcases List.append_eq_append_iff.mp cut with ⟨middle, behind, rest⟩ | ⟨missing, through, rest⟩
  · exact Or.inr ⟨middle, behind, rest⟩
  · cases missing with
    | nil => exact Or.inr ⟨[], by simpa using through.symm, by simpa using rest.symm⟩
    | cons byte missing => exact Or.inl ⟨byte :: missing, by simp, through, rest⟩

namespace Format

variable {Value First Second : Type}

/-- Of a value that fits and was cut off, reading finds that the bytes end, and asks for no more
than was lost. -/
structure NoticesCuts (format : Format Value) (fits : Value → Prop) : Prop where
  read_front : ∀ {value : Value}, fits value → ∀ {front lost : Bytes},
    format.write value = front ++ lost → lost ≠ [] → AsksWithin lost.length (format.read front)

theorem NoticesCuts.congr {format : Format Value} {fits other : Value → Prop}
    (notices : format.NoticesCuts fits) (same : ∀ value, fits value ↔ other value) :
    format.NoticesCuts other where
  read_front fitting := notices.read_front ((same _).mpr fitting)

/-- A first part is read, and then what follows it. If a cut goes through the first part, that
part notices it; behind the first part it is left to what follows. -/
theorem NoticesCuts.followed {format : Format First} {fits : First → Prop}
    (notices : format.NoticesCuts fits) (exact : format.Exact fits) {part : First}
    (fitting : fits part) {tail front lost : Bytes}
    (cut : format.write part ++ tail = front ++ lost) (loses : lost ≠ [])
    {next : First × Bytes → Except ReadError Second}
    (later : ∀ middle, tail = middle ++ lost → AsksWithin lost.length (next (part, middle))) :
    AsksWithin lost.length (format.read front >>= next) := by
  rcases cut_append cut with ⟨missing, some, through, rfl⟩ | ⟨middle, rfl, behind⟩
  · rw [List.length_append]
    exact ((notices.read_front fitting through some).mono (Nat.le_add_right _ _)).bind next
  · rw [exact.read_write fitting]
    exact later middle behind

/-- Taking more bytes than there are asks for the difference. -/
theorem asksWithin_take {count : Nat} {bytes : Bytes} (short : bytes.length < count) :
    AsksWithin (count - bytes.length) (take count bytes) := by
  have all : bytes.take count = bytes := List.take_of_length_le (Nat.le_of_lt short)
  refine ⟨count - bytes.length, ?_, by omega, Nat.le_refl _⟩
  unfold take
  dsimp only
  rw [all, if_neg (Nat.ne_of_lt short)]

theorem asksWithin_take_of_cut {bytes front lost : Bytes} (cut : bytes = front ++ lost)
    (loses : lost ≠ []) : AsksWithin lost.length (take bytes.length front) := by
  have whole : bytes.length = front.length + lost.length := by rw [cut, List.length_append]
  have positive := List.length_pos_iff.mpr loses
  have asks : AsksWithin (bytes.length - front.length) (take bytes.length front) :=
    asksWithin_take (by omega)
  rwa [whole, Nat.add_sub_cancel_left, ← whole] at asks

theorem NoticesCuts.map {format : Format First} {fits : First → Prop}
    (notices : format.NoticesCuts fits) (build : First → Second) (parts : Second → First) :
    (format.map build parts).NoticesCuts fun value => fits (parts value) where
  read_front fitting _ _ cut loses := (notices.read_front fitting cut loses).bind _

theorem NoticesCuts.check {format : Format First} {fits : First → Prop}
    (notices : format.NoticesCuts fits) (build : First → Except ReadError Second)
    (parts : Second → First) :
    (format.check build parts).NoticesCuts fun value => fits (parts value) where
  read_front fitting _ _ cut loses := (notices.read_front fitting cut loses).bind _

theorem NoticesCuts.pair {first : Format First} {second : Format Second} {fits : First → Prop}
    {fitsAfter : Second → Prop} (notices : first.NoticesCuts fits) (exact : first.Exact fits)
    (noticesAfter : second.NoticesCuts fitsAfter) :
    (first.pair second).NoticesCuts fun value => fits value.1 ∧ fitsAfter value.2 where
  read_front fitting front lost cut loses := by
    refine notices.followed exact fitting.1 cut loses fun middle behind => ?_
    exact (noticesAfter.read_front fitting.2 behind loses).bind _

theorem noticesCuts_number {width : Nat} {toNat : Value → Nat} {ofNat : Nat → Value}
    {fits : Value → Prop} : (number width toNat ofNat).NoticesCuts fits where
  read_front _ front lost cut loses := by
    have asks := asksWithin_take_of_cut cut loses
    rw [write_number, Bytes.length_ofNat] at asks
    exact asks.bind _

theorem noticesCuts_byte : byte.NoticesCuts fun _ => True := noticesCuts_number

theorem noticesCuts_word16 : word16.NoticesCuts fun _ => True := noticesCuts_number

theorem noticesCuts_word32 : word32.NoticesCuts fun _ => True := noticesCuts_number

theorem noticesCuts_binary32 : binary32.NoticesCuts fun _ => True :=
  noticesCuts_word32.map _ _

theorem noticesCuts_bool : bool.NoticesCuts fun _ => True := noticesCuts_byte.check _ _

theorem NoticesCuts.option {format : Format Value} {fits : Value → Prop}
    (notices : format.NoticesCuts fits) :
    (Format.option format).NoticesCuts fun held => ∀ value ∈ held, fits value where
  read_front {held} fitting front lost cut loses := by
    cases held with
    | none =>
      rw [write_none] at cut
      exact (noticesCuts_byte.read_front trivial cut loses).bind _
    | some value =>
      rw [write_some] at cut
      refine noticesCuts_byte.followed exact_byte trivial cut loses fun middle behind => ?_
      exact (notices.read_front (fitting value rfl) behind loses).bind _

theorem noticesCuts_length : length.NoticesCuts (· < lengthLimit) := noticesCuts_number

theorem readMany_succ (read : Reader Value) (count : Nat) (found : List Value) (bytes : Bytes) :
    readMany read (count + 1) found bytes =
      read bytes >>= fun step => readMany read count (step.1 :: found) step.2 := by
  rw [readMany]
  cases read bytes <;> rfl

section Many

variable {format : Format Value} {fits : Value → Prop} (notices : format.NoticesCuts fits)
  (exact : format.Exact fits)

include notices exact

/-- Of values in a row, the one through which the cut goes notices it. -/
theorem readMany_noticesCuts {values : List Value} (fitting : ∀ value ∈ values, fits value)
    (found : List Value) {front lost : Bytes} (cut : values.flatMap format.write = front ++ lost)
    (loses : lost ≠ []) :
    AsksWithin lost.length (readMany format.read values.length found front) := by
  induction values generalizing found front with
  | nil =>
    exact absurd (List.append_eq_nil_iff.mp cut.symm).2 loses
  | cons first later ih =>
    obtain ⟨fittingFirst, fitting⟩ := List.forall_mem_cons.mp fitting
    rw [List.flatMap_cons] at cut
    rw [List.length_cons, readMany_succ]
    refine notices.followed exact fittingFirst cut loses fun middle behind => ?_
    exact ih fitting (first :: found) behind

theorem NoticesCuts.list : (Format.list format).NoticesCuts fun values =>
    values.length < lengthLimit ∧ ∀ value ∈ values, fits value where
  read_front fitting front lost cut loses := by
    rw [write_list] at cut
    refine noticesCuts_length.followed exact_length fitting.1 cut loses fun middle behind => ?_
    exact readMany_noticesCuts notices exact fitting.2 [] behind loses

end Many

/-- A block is read as a whole: what is asked for is just what was lost of it. -/
theorem noticesCuts_block : block.NoticesCuts (·.length < lengthLimit) where
  read_front fitting front lost cut loses := by
    rw [write_block] at cut
    refine noticesCuts_length.followed exact_length fitting cut loses fun middle behind => ?_
    exact asksWithin_take_of_cut behind loses

/-- The bytes of a text are not looked at before all of them are there. -/
theorem noticesCuts_text : text.NoticesCuts (·.utf8ByteSize < lengthLimit) :=
  (noticesCuts_block.check _ _).congr fun value => by
    rw [Array.length_toList]
    rfl

theorem noticesCuts_peerId : peerId.NoticesCuts fun _ => True :=
  (noticesCuts_block.check _ _).congr fun id => by
    rw [PeerId.length_bytes]
    exact iff_true_intro (by decide)

/-- The reader of an alternative notices cuts through what is written under its number. -/
structure NoticesCutsUnder (write : Value → Nat × Bytes) (fits : Value → Prop) (index : Nat)
    (read : Reader Value) : Prop where
  read_front : ∀ {value : Value}, (write value).1 = index → fits value →
    ∀ {front lost : Bytes}, (write value).2 = front ++ lost → lost ≠ [] →
      AsksWithin lost.length (read front)

theorem noticesCuts_variants {write : Value → Nat × Bytes} {readers : List (Reader Value)}
    {fits : Value → Prop} (few : readers.length ≤ 256 ^ (4 : Nat))
    (known : ∀ value, (write value).1 < readers.length)
    (notices : ∀ index read, readers[index]? = some read →
      NoticesCutsUnder write fits index read) :
    (variants write readers).NoticesCuts fits where
  read_front {value} fitting front lost cut loses := by
    have listed := List.getElem?_eq_getElem (known value)
    have number : (UInt32.ofNat (write value).1).toNat = (write value).1 :=
      UInt32.toNat_ofNat_of_lt' (Nat.lt_of_lt_of_le (known value) few)
    have numbered : word32.write (UInt32.ofNat (write value).1) ++ (write value).2 =
        front ++ lost := by
      rw [word32, write_number, number]
      exact cut
    refine noticesCuts_word32.followed exact_word32 trivial numbered loses fun middle behind => ?_
    simp only [number, listed]
    exact (notices _ _ listed).read_front rfl fitting behind loses

theorem NoticesCuts.alternative {format : Format First} {part : First → Prop}
    (notices : format.NoticesCuts part) {write : Value → Nat × Bytes} {fits : Value → Prop}
    {index : Nat} {build : First → Value}
    (written : ∀ held, write (build held) = (index, format.write held))
    (fits_build : ∀ held, fits (build held) ↔ part held)
    (built : ∀ value, (write value).1 = index → ∃ held, build held = value) :
    NoticesCutsUnder write fits index (Format.alternative format build) where
  read_front {value} numbered fitting front lost cut loses := by
    obtain ⟨held, rfl⟩ := built value numbered
    rw [written] at cut
    exact (notices.read_front ((fits_build held).mp fitting) cut loses).bind _

/-- Nothing can be cut off an alternative that holds nothing. -/
theorem noticesCuts_constant {write : Value → Nat × Bytes} {fits : Value → Prop} {index : Nat}
    {value : Value} (written : write value = (index, []))
    (only : ∀ other, (write other).1 = index → other = value) :
    NoticesCutsUnder write fits index (constant value) where
  read_front {other} numbered _ front lost cut loses := by
    cases only other numbered
    rw [written] at cut
    exact absurd (List.append_eq_nil_iff.mp cut.symm).2 loses

end Format

open Format

theorem Vec3.noticesCuts_format : Vec3.format.NoticesCuts fun _ => True :=
  ((noticesCuts_binary32.pair exact_binary32 (noticesCuts_binary32.pair exact_binary32
    noticesCuts_binary32)).map _ _).congr fun _ => by simp

theorem Quat.noticesCuts_format : Quat.format.NoticesCuts fun _ => True :=
  ((noticesCuts_binary32.pair exact_binary32 (noticesCuts_binary32.pair exact_binary32
    (noticesCuts_binary32.pair exact_binary32 noticesCuts_binary32))).map _ _).congr
      fun _ => by simp

theorem Joint.noticesCuts_format : Joint.format.NoticesCuts fun _ => True :=
  ((Quat.noticesCuts_format.pair Quat.exact_format Vec3.noticesCuts_format).map _ _).congr
    fun _ => by simp

theorem Pose.noticesCuts_format : Pose.format.NoticesCuts Pose.Fits :=
  ((Vec3.noticesCuts_format.pair Vec3.exact_format
    (Quat.noticesCuts_format.pair Quat.exact_format
      (noticesCuts_binary32.pair exact_binary32
        (Vec3.noticesCuts_format.option.pair Vec3.exact_format.option
          (Joint.noticesCuts_format.list Joint.exact_format))))).map _ _).congr
            fun _ => by simp [Pose.Fits]

theorem Update.noticesCuts_format : Update.format.NoticesCuts Update.Fits :=
  ((Vec3.noticesCuts_format.pair Vec3.exact_format
    (Quat.noticesCuts_format.pair Quat.exact_format
      (noticesCuts_binary32.pair exact_binary32
        (noticesCuts_bool.pair exact_bool
          (noticesCuts_word16.pair exact_word16
            ((noticesCuts_word16.pair exact_word16 Joint.noticesCuts_format).list
              (exact_word16.pair Joint.exact_format))))))).map _ _).congr
                fun _ => by simp [Update.Fits]

theorem Identity.noticesCuts_format : Identity.format.NoticesCuts Identity.Fits :=
  (noticesCuts_text.pair exact_text (noticesCuts_text.pair exact_text
    (noticesCuts_text.list exact_text))).map _ _

theorem Segment.noticesCuts_format : Segment.format.NoticesCuts Segment.Fits :=
  ((noticesCuts_peerId.pair exact_peerId (noticesCuts_byte.list exact_byte)).map _ _).congr
    fun _ => by simp [Segment.Fits]

theorem Batch.noticesCuts_format : Batch.format.NoticesCuts Batch.Fits :=
  (Segment.noticesCuts_format.list Segment.exact_format).map _ _

theorem KillReason.noticesCuts_format : KillReason.format.NoticesCuts fun _ => True := by
  refine noticesCuts_variants (by decide) (fun reason => by cases reason <;> decide) ?_
  intro index read listed
  match index, listed with
  | 0, listed =>
    cases listed
    exact noticesCuts_constant rfl fun other numbered => by cases other <;> trivial
  | 1, listed =>
    cases listed
    exact noticesCuts_constant rfl fun other numbered => by cases other <;> trivial

theorem InboundPacket.noticesCuts_format : InboundPacket.format.NoticesCuts Fits := by
  refine noticesCuts_variants (by decide) (fun packet => by cases packet <;> simp) ?_
  intro index read listed
  match index, listed with
  | 0, listed =>
    cases listed
    refine (noticesCuts_word16.pair exact_word16 Pose.noticesCuts_format).alternative
      (fun _ => rfl) (fun _ => by simp [Fits]) fun packet numbered => ?_
    cases packet <;> simp at numbered ⊢
  | 1, listed =>
    cases listed
    refine Identity.noticesCuts_format.alternative (fun _ => rfl) (fun _ => Iff.rfl)
      fun packet numbered => ?_
    cases packet <;> simp at numbered ⊢
  | 2, listed =>
    cases listed
    refine noticesCuts_constant rfl fun packet numbered => ?_
    cases packet <;> simp at numbered ⊢
  | 3, listed =>
    cases listed
    refine ((noticesCuts_peerId.list exact_peerId).pair exact_peerId.list
      noticesCuts_bool).alternative (fun _ => rfl) (fun _ => by simp [Fits])
        fun packet numbered => ?_
    cases packet <;> simp at numbered ⊢
  | 4, listed =>
    cases listed
    refine noticesCuts_bool.alternative (fun _ => rfl) (fun _ => Iff.rfl)
      fun packet numbered => ?_
    cases packet <;> simp at numbered ⊢

theorem OutboundPacket.noticesCuts_format : OutboundPacket.format.NoticesCuts Fits := by
  refine noticesCuts_variants (by decide) (fun packet => by cases packet <;> simp) ?_
  intro index read listed
  match index, listed with
  | 0, listed =>
    cases listed
    refine Batch.noticesCuts_format.alternative (fun _ => rfl) (fun _ => Iff.rfl)
      fun packet numbered => ?_
    cases packet <;> simp at numbered ⊢
  | 1, listed =>
    cases listed
    refine (noticesCuts_peerId.pair exact_peerId Identity.noticesCuts_format).alternative
      (fun _ => rfl) (fun _ => by simp [Fits]) fun packet numbered => ?_
    cases packet <;> simp at numbered ⊢
  | 2, listed =>
    cases listed
    refine (noticesCuts_peerId.pair exact_peerId KillReason.noticesCuts_format).alternative
      (fun _ => rfl) (fun _ => by simp [Fits]) fun packet numbered => ?_
    cases packet <;> simp at numbered ⊢

theorem MessageKind.noticesCuts_format (kind : MessageKind) :
    kind.format.NoticesCuts kind.Fits := by
  cases kind with
  | inboundPacket => exact InboundPacket.noticesCuts_format
  | outboundPacket => exact OutboundPacket.noticesCuts_format
  | batch => exact Batch.noticesCuts_format
  | segment => exact Segment.noticesCuts_format
  | update => exact Update.noticesCuts_format
  | pose => exact Pose.noticesCuts_format
  | identity => exact Identity.noticesCuts_format

/-- A message that was cut off is always recognised. Whatever bytes begin what is written of a
message and are not all of it, decoding fails because they end, for no other cause, and asks for
at least one byte and for no more than are missing. -/
theorem decode_cut_off (kind : MessageKind) {message : kind.Message} (fits : kind.Fits message)
    {front : Bytes} (begins : front <+: kind.format.write message)
    (cut : front ≠ kind.format.write message) :
    ∃ additional, kind.format.decode front = .error (.unexpectedEnd additional) ∧
      1 ≤ additional ∧ additional + front.length ≤ (kind.format.write message).length := by
  obtain ⟨lost, whole⟩ := begins
  have loses : lost ≠ [] := by
    rintro rfl
    exact cut (by rw [← whole, List.append_nil])
  obtain ⟨additional, failed, some, few⟩ :=
    (kind.noticesCuts_format.read_front fits whole.symm loses).map Prod.fst
  refine ⟨additional, failed, some, ?_⟩
  rw [← whole, List.length_append]
  omega

/-- A name is cut off within its only character, which takes two bytes: the bytes that are left
are not taken for a malformed text. -/
theorem decode_cut_off_within_character :
    let packet := InboundPacket.avatarIdentity (Identity.named "é")
    let written := InboundPacket.format.write packet
    MessageKind.inboundPacket.Fits packet ∧ written.take 13 <+: written ∧
      written.take 13 ≠ written ∧
      ∃ additional,
        InboundPacket.format.decode (written.take 13) = .error (.unexpectedEnd additional) ∧
          1 ≤ additional ∧ additional + (written.take 13).length ≤ written.length := by
  intro packet written
  have fits : MessageKind.inboundPacket.Fits packet := by
    change 2 < lengthLimit ∧ 0 < lengthLimit ∧ 0 < lengthLimit ∧ ∀ attachment ∈ [], _
    exact ⟨by decide, by decide, by decide, List.forall_mem_nil _⟩
  have begins : written.take 13 <+: written := List.take_prefix 13 written
  have cut : written.take 13 ≠ written := by decide
  exact ⟨fits, begins, cut, decode_cut_off .inboundPacket fits begins cut⟩

end AvatarRelay
