/-
# Visits

What one visit does to a receiver and its batch, and from it what all the visits of
a turn do. A candidate is forwarded when it passes every question of its visit; the
answers are collected in one test, so that later results speak of that test alone.
-/

import AvatarRelay.Fanout.Visit
import AvatarRelay.Proofs.Directory

namespace AvatarRelay

namespace Candidate

def distanceTo (own other : Candidate) : Binary32 :=
  own.avatar.position.distanceTo other.avatar.position

end Candidate

namespace Receiver

def remembers (receiver : Receiver) (other : PeerId) : Bool :=
  receiver.lastForwarded.contains other || receiver.introduced.contains other ||
    receiver.muted.contains other

theorem remembers_iff {receiver : Receiver} {other : PeerId} :
    receiver.remembers other = true ↔
      receiver.lastForwarded[other]? ≠ none ∨ receiver.introduced.contains other = true ∨
        receiver.muted.contains other = true := by
  rw [remembers, Bool.or_eq_true, Bool.or_eq_true, or_assoc,
    Std.ExtTreeMap.contains_eq_isSome_getElem?, Option.isSome_iff_ne_none]

@[simp]
theorem remembers_new (other : PeerId) : new.remembers other = false := by
  simp [remembers, new]

end Receiver

namespace Visit

variable (context : PassContext) (own other : Candidate) (visit : Visit)

/-- The visit of a candidate that the bubble let pass, when it comes to admission. -/
def unmuted : Visit :=
  (visit.markMuted other.id false).introduce context other

/-- The stream of chance when it comes to admission: a draw about the identity may
have come before. -/
def chanceOfAdmission : Random :=
  (visit.unmuted context other).random

def admits : Bool :=
  (admission visit.receiver.fullRateDistance (own.distanceTo other)
    (visit.chanceOfAdmission context other)).1

def chanceOfFullness : Random :=
  (admission visit.receiver.fullRateDistance (own.distanceTo other)
    (visit.chanceOfAdmission context other)).2

/-- The candidate passes every question of its visit. -/
def forwards : Bool :=
  !own.apart other && !context.busy other.id && !own.muted other &&
    visit.admits context own other &&
    (Sequence.standing (visit.receiver.lastFrom other.id) other.sender.latest).sends

def sendsFull : Bool :=
  (fullness context (!visit.receiver.lastForwarded.contains other.id)
    (visit.chanceOfFullness context own other)).1

def segmentFor : Segment :=
  ⟨other.id, other.avatar.encodeUpdate (visit.sendsFull context own other)⟩

theorem admission_iff {fullRateDistance distance : Binary32} {random : Random} :
    (admission fullRateDistance distance random).1 = true ↔
      distance.numEq 0 = true ∨ random.unit.1 ≤ fullRateDistance / distance := by
  unfold admission
  cases here : distance.numEq 0 with
  | true => simp
  | false => simp

theorem fullness_iff {first : Bool} {random : Random} :
    (fullness context first random).1 = true ↔
      first = true ∨ random.unit.1 < context.settings.fullShare := by
  unfold fullness
  cases first with
  | true => simp
  | false => simp

@[simp]
theorem batch_introduce : (visit.introduce context other).batch = visit.batch := by
  unfold introduce
  cases other.avatar.identity <;> rfl

@[simp]
theorem lastForwarded_introduce :
    (visit.introduce context other).receiver.lastForwarded = visit.receiver.lastForwarded := by
  unfold introduce
  cases other.avatar.identity <;> rfl

@[simp]
theorem fullRateDistance_introduce :
    (visit.introduce context other).receiver.fullRateDistance =
      visit.receiver.fullRateDistance := by
  unfold introduce
  cases other.avatar.identity <;> rfl

@[simp]
theorem muted_introduce :
    (visit.introduce context other).receiver.muted = visit.receiver.muted := by
  unfold introduce
  cases other.avatar.identity <;> rfl

theorem introduced_introduce {id : PeerId}
    (known : (visit.introduce context other).receiver.introduced.contains id = true) :
    id = other.id ∨ visit.receiver.introduced.contains id = true := by
  unfold introduce at known
  cases identity : other.avatar.identity with
  | none =>
    rw [identity] at known
    exact Or.inr known
  | some value =>
    rw [identity] at known
    exact (PeerSet.contains_insert_iff _ _ _).mp known

theorem identities_introduce {packet : OutboundPacket}
    (due : packet ∈ (visit.introduce context other).identities) :
    packet ∈ visit.identities ∨ ∃ identity, packet = .avatarIdentity other.id identity := by
  unfold introduce at due
  cases known : other.avatar.identity with
  | none =>
    rw [known] at due
    exact Or.inl due
  | some identity =>
    simp only [known] at due
    split at due
    · rcases List.mem_append.mp due with before | now
      · exact Or.inl before
      · exact Or.inr ⟨identity, List.mem_singleton.mp now⟩
    · exact Or.inl due

/-- The visit of a candidate that the bubble let pass, when it comes to forwarding. -/
def considered : Visit :=
  { (visit.unmuted context other).measure (own.distanceTo other) with
    random := visit.chanceOfFullness context own other }

/-- A visit in terms of the test: who is kept apart, busy or muted is not considered,
and of those considered the admitted ones come to be forwarded. -/
theorem next_eq :
    visit.next context own other =
      if own.apart other then visit
      else if context.busy other.id then visit.contended
      else if own.muted other then visit.markMuted other.id true
      else if visit.admits context own other then
        (visit.considered context own other).forward context other
      else visit.considered context own other := by
  have distance : (visit.unmuted context other).receiver.fullRateDistance =
      visit.receiver.fullRateDistance :=
    fullRateDistance_introduce context other (visit.markMuted other.id false)
  have considering : (visit.unmuted context other).consider context own other =
      if visit.admits context own other then
        (visit.considered context own other).forward context other
      else visit.considered context own other := by
    simp only [consider, considered, admits, chanceOfFullness, chanceOfAdmission, measure,
      distance, Candidate.distanceTo]
    rfl
  rw [← considering]
  cases muted : own.muted other with
  | true => simp only [next, muted, if_true]
  | false => simp only [next, muted, Bool.false_eq_true, if_false, unmuted]

section Forward

variable {context other visit}

theorem batch_forward :
    (visit.forward context other).batch =
      if (Sequence.standing (visit.receiver.lastFrom other.id) other.sender.latest).sends then
        visit.batch.push ⟨other.id, other.avatar.encodeUpdate
          (fullness context (!visit.receiver.lastForwarded.contains other.id) visit.random).1⟩
      else visit.batch := by
  simp only [forward]
  cases Sequence.outOfOrder (visit.receiver.lastFrom other.id) other.sender.latest <;>
    cases Sequence.standing (visit.receiver.lastFrom other.id) other.sender.latest <;> rfl

theorem lastForwarded_forward :
    (visit.forward context other).receiver.lastForwarded =
      if (Sequence.standing (visit.receiver.lastFrom other.id) other.sender.latest).sends then
        visit.receiver.lastForwarded.insert other.id other.sender.latest
      else visit.receiver.lastForwarded := by
  simp only [forward]
  cases Sequence.outOfOrder (visit.receiver.lastFrom other.id) other.sender.latest <;>
    cases Sequence.standing (visit.receiver.lastFrom other.id) other.sender.latest <;> rfl

/-- Forwarding keeps all that a visit holds besides. -/
theorem forward_keeps :
    (visit.forward context other).receiver.fullRateDistance = visit.receiver.fullRateDistance ∧
      (visit.forward context other).receiver.introduced = visit.receiver.introduced ∧
      (visit.forward context other).receiver.muted = visit.receiver.muted ∧
      (visit.forward context other).identities = visit.identities := by
  simp only [forward]
  cases Sequence.outOfOrder (visit.receiver.lastFrom other.id) other.sender.latest <;>
    cases Sequence.standing (visit.receiver.lastFrom other.id) other.sender.latest <;>
      exact ⟨rfl, rfl, rfl, rfl⟩

end Forward

/-! ## One visit -/

theorem lastForwarded_considered :
    (visit.considered context own other).receiver.lastForwarded =
      visit.receiver.lastForwarded :=
  lastForwarded_introduce context other (visit.markMuted other.id false)

theorem lastFrom_considered (id : PeerId) :
    (visit.considered context own other).receiver.lastFrom id = visit.receiver.lastFrom id := by
  rw [Receiver.lastFrom, lastForwarded_considered, Receiver.lastFrom]

theorem batch_considered : (visit.considered context own other).batch = visit.batch :=
  batch_introduce context other (visit.markMuted other.id false)

/-- A visit appends the candidate's segment to the batch if it passes the test. -/
theorem batch_next :
    (visit.next context own other).batch =
      if visit.forwards context own other then
        visit.batch.push (visit.segmentFor context own other)
      else visit.batch := by
  have same := lastForwarded_considered context own other visit
  have last := lastFrom_considered context own other visit other.id
  rw [next_eq, forwards]
  cases own.apart other <;> cases context.busy other.id <;> cases own.muted other <;>
    cases visit.admits context own other <;> try rfl
  · simp [batch_considered]
  · simp only [Bool.not_false, Bool.and_true, Bool.true_and, if_true, Bool.false_eq_true,
      if_false, batch_forward, last, same, batch_considered, segmentFor, sendsFull]
    rfl

/-- A visit notes the candidate's number if it passes the test. -/
theorem lastForwarded_next :
    (visit.next context own other).receiver.lastForwarded =
      if visit.forwards context own other then
        visit.receiver.lastForwarded.insert other.id other.sender.latest
      else visit.receiver.lastForwarded := by
  have same := lastForwarded_considered context own other visit
  have last := lastFrom_considered context own other visit other.id
  rw [next_eq, forwards]
  cases own.apart other <;> cases context.busy other.id <;> cases own.muted other <;>
    cases visit.admits context own other <;> try rfl
  · simp [same]
  · simp only [Bool.not_false, Bool.and_true, Bool.true_and, if_true, Bool.false_eq_true,
      if_false, lastForwarded_forward, last, same]

/-- Visits leave the full rate distance as the turn set it. -/
@[simp]
theorem fullRateDistance_next :
    (visit.next context own other).receiver.fullRateDistance =
      visit.receiver.fullRateDistance := by
  have considered : (visit.considered context own other).receiver.fullRateDistance =
      visit.receiver.fullRateDistance :=
    fullRateDistance_introduce context other (visit.markMuted other.id false)
  rw [next_eq]
  split
  · rfl
  split
  · rfl
  split
  · rfl
  split
  · exact forward_keeps.1.trans considered
  · exact considered

/-- Whoever is introduced after a visit was so before, or is the candidate. -/
theorem introduced_next {id : PeerId}
    (known : (visit.next context own other).receiver.introduced.contains id = true) :
    (id = other.id ∧ own.id ≠ other.id) ∨ visit.receiver.introduced.contains id = true := by
  have considered : (visit.considered context own other).receiver.introduced.contains id =
      true → id = other.id ∨ visit.receiver.introduced.contains id = true :=
    introduced_introduce context other (visit.markMuted other.id false)
  rw [next_eq] at known
  split at known
  · exact Or.inr known
  next together =>
  have apart : own.id ≠ other.id := fun same => together (by simp [Candidate.apart, same])
  split at known
  · exact Or.inr known
  split at known
  · exact Or.inr known
  split at known
  · rw [forward_keeps.2.1] at known
    exact (considered known).imp_left fun here => ⟨here, apart⟩
  · exact (considered known).imp_left fun here => ⟨here, apart⟩

theorem muted_next {id : PeerId}
    (silent : (visit.next context own other).receiver.muted.contains id = true) :
    (id = other.id ∧ own.id ≠ other.id) ∨ visit.receiver.muted.contains id = true := by
  have erased (gone : (visit.receiver.muted.erase other.id).contains id = true) :
      visit.receiver.muted.contains id = true :=
    ((PeerSet.contains_erase_iff _ _ _).mp gone).2
  have considered : (visit.considered context own other).receiver.muted =
      visit.receiver.muted.erase other.id :=
    muted_introduce context other (visit.markMuted other.id false)
  rw [next_eq] at silent
  split at silent
  · exact Or.inr silent
  next together =>
  have apart : own.id ≠ other.id := fun same => together (by simp [Candidate.apart, same])
  split at silent
  · exact Or.inr silent
  split at silent
  · exact ((PeerSet.contains_insert_iff _ _ _).mp silent).imp_left fun here => ⟨here, apart⟩
  split at silent
  · rw [forward_keeps.2.2.1, considered] at silent
    exact Or.inr (erased silent)
  · rw [considered] at silent
    exact Or.inr (erased silent)

/-- The identity packets that a visit adds are about the candidate, if it is not kept apart. -/
theorem identities_next {packet : OutboundPacket}
    (due : packet ∈ (visit.next context own other).identities) :
    packet ∈ visit.identities ∨
      own.apart other = false ∧ ∃ identity, packet = .avatarIdentity other.id identity := by
  have considered : packet ∈ (visit.considered context own other).identities →
      packet ∈ visit.identities ∨ ∃ identity, packet = .avatarIdentity other.id identity :=
    identities_introduce context other (visit.markMuted other.id false)
  rw [next_eq] at due
  split at due
  · exact Or.inl due
  next together =>
  have heard : own.apart other = false := Bool.eq_false_iff.mpr together
  split at due
  · exact Or.inl due
  split at due
  · exact Or.inl due
  split at due
  · rw [forward_keeps.2.2.2] at due
    exact (considered due).imp_right fun about => ⟨heard, about⟩
  · exact (considered due).imp_right fun about => ⟨heard, about⟩

theorem forwards_iff :
    visit.forwards context own other = true ↔
      own.apart other = false ∧ context.busy other.id = false ∧ own.muted other = false ∧
        visit.admits context own other = true ∧
        Sequence.standing (visit.receiver.lastFrom other.id) other.sender.latest ≠
          .heldBack := by
  have fresh : ∀ standing : Sequence.Standing,
      standing.sends = true ↔ standing ≠ .heldBack := by
    intro standing
    cases standing <;> simp [Sequence.Standing.sends]
  simp [forwards, fresh, and_assoc]

theorem apart_of_forwards (forwarded : visit.forwards context own other = true) :
    own.id ≠ other.id := by
  intro same
  have together := ((forwards_iff context own other visit).mp forwarded).1
  simp [Candidate.apart, same] at together

/-- A candidate that is not among those visited keeps its entry. -/
theorem lastForwarded_foldl_of_not_mem {others : List Candidate} {id : PeerId}
    (absent : id ∉ others.map Candidate.id) :
    (others.foldl (next context own) visit).receiver.lastForwarded[id]? =
      visit.receiver.lastForwarded[id]? := by
  induction others generalizing visit with
  | nil => rfl
  | cons other rest ih =>
    rw [List.map_cons, List.mem_cons, not_or] at absent
    obtain ⟨here, absent⟩ := absent
    rw [List.foldl_cons, ih _ absent, lastForwarded_next]
    split
    · rw [PeerMap.getElem?_insert_eq, if_neg here]
    · rfl

theorem contains_foldl_of_not_mem {others : List Candidate} {id : PeerId}
    (absent : id ∉ others.map Candidate.id) :
    (others.foldl (next context own) visit).batch.contains id = visit.batch.contains id := by
  induction others generalizing visit with
  | nil => rfl
  | cons other rest ih =>
    rw [List.map_cons, List.mem_cons, not_or] at absent
    obtain ⟨here, absent⟩ := absent
    rw [List.foldl_cons, ih _ absent, batch_next]
    split
    · simp [Batch.contains, Batch.push, segmentFor, Ne.symm here]
    · rfl

/-- Entry and segment of a visited candidate are told from its own visit. -/
theorem foldl_of_split {others earlier later : List Candidate} {other : Candidate}
    (distinct : (others.map Candidate.id).Nodup) (split : others = earlier ++ other :: later) :
    let forwarded := (earlier.foldl (next context own) visit).forwards context own other
    let after := others.foldl (next context own) visit
    after.receiver.lastForwarded[other.id]? =
        (if forwarded then some other.sender.latest
          else visit.receiver.lastForwarded[other.id]?) ∧
      after.batch.contains other.id = (forwarded || visit.batch.contains other.id) := by
  intro forwarded after
  subst split
  rw [List.map_append, List.map_cons, List.nodup_append, List.nodup_cons] at distinct
  obtain ⟨-, ⟨unlisted, -⟩, apart⟩ := distinct
  have fresh : other.id ∉ earlier.map Candidate.id :=
    fun listed => apart other.id listed other.id List.mem_cons_self rfl
  have visited : after =
      later.foldl (next context own) ((earlier.foldl (next context own) visit).next
        context own other) := by
    simp only [after, List.foldl_append, List.foldl_cons]
  rw [visited, lastForwarded_foldl_of_not_mem _ _ _ unlisted,
    contains_foldl_of_not_mem _ _ _ unlisted, lastForwarded_next, batch_next]
  have before := lastForwarded_foldl_of_not_mem context own visit fresh
  have empty := contains_foldl_of_not_mem context own visit fresh
  change (if forwarded = true then _ else _)[other.id]? = _ ∧
    (if forwarded = true then _ else _ : Batch).contains other.id = _
  cases forwarded with
  | true => simp [Batch.contains, Batch.push, segmentFor]
  | false => simp [before, empty]

@[simp]
theorem fullRateDistance_foldl (others : List Candidate) :
    (others.foldl (next context own) visit).receiver.fullRateDistance =
      visit.receiver.fullRateDistance := by
  induction others generalizing visit with
  | nil => rfl
  | cons other rest ih => rw [List.foldl_cons, ih, fullRateDistance_next]

/-- The batch gathers the segments of those that passed the test of their visit. -/
theorem mem_segments_foldl {others : List Candidate} {segment : Segment} :
    segment ∈ (others.foldl (next context own) visit).batch.segments ↔
      segment ∈ visit.batch.segments ∨
        ∃ earlier other later, others = earlier ++ other :: later ∧
          (earlier.foldl (next context own) visit).forwards context own other = true ∧
          segment = (earlier.foldl (next context own) visit).segmentFor context own other := by
  induction others generalizing visit with
  | nil => simp
  | cons first rest ih =>
    rw [List.foldl_cons, ih, batch_next]
    constructor
    · rintro (now | ⟨earlier, other, later, rfl, forwarded, rfl⟩)
      · split at now
        · next forwarded =>
          rcases List.mem_append.mp now with before | here
          · exact Or.inl before
          · exact Or.inr ⟨[], first, rest, rfl, forwarded, List.mem_singleton.mp here⟩
        · exact Or.inl now
      · exact Or.inr ⟨first :: earlier, other, later, rfl, forwarded, rfl⟩
    · rintro (before | ⟨earlier, other, later, split, forwarded, rfl⟩)
      · left
        split
        · exact List.mem_append_left _ before
        · exact before
      · cases earlier with
        | nil =>
          obtain ⟨rfl, rfl⟩ := List.cons.inj split
          left
          rw [List.foldl_nil] at forwarded ⊢
          rw [if_pos forwarded]
          exact List.mem_append_right _ (List.mem_singleton.mpr rfl)
        | cons _ earlier =>
          obtain ⟨rfl, rfl⟩ := List.cons.inj split
          exact Or.inr ⟨earlier, other, later, rfl, forwarded, rfl⟩

/-- The senders in the batch stand there in the order of their visits. -/
theorem senders_foldl (others : List Candidate) :
    ∃ senders : List PeerId, senders.Sublist (others.map Candidate.id) ∧
      (others.foldl (next context own) visit).batch.segments.map Segment.sender =
        visit.batch.segments.map Segment.sender ++ senders := by
  induction others generalizing visit with
  | nil => exact ⟨[], List.Sublist.refl _, by simp⟩
  | cons first rest ih =>
    obtain ⟨senders, ordered, gathered⟩ := ih (visit.next context own first)
    rw [List.foldl_cons, gathered, batch_next]
    split
    · refine ⟨first.id :: senders, ordered.cons_cons _, ?_⟩
      simp [Batch.push, segmentFor]
    · exact ⟨senders, ordered.cons _, rfl⟩

/-- Whoever a receiver remembers after its visits it remembered before, or is one of
the others that were visited. -/
theorem remembers_foldl {others : List Candidate} {id : PeerId}
    (remembered : (others.foldl (next context own) visit).receiver.remembers id = true) :
    visit.receiver.remembers id = true ∨ ∃ other ∈ others, other.id = id ∧ own.id ≠ id := by
  induction others generalizing visit with
  | nil => exact Or.inl remembered
  | cons first rest ih =>
    rcases ih _ remembered with now | ⟨other, listed, here⟩
    · have visited (here : id = first.id ∧ own.id ≠ first.id) :
          ∃ other ∈ first :: rest, other.id = id ∧ own.id ≠ id :=
        ⟨first, List.mem_cons_self, here.1.symm, here.1 ▸ here.2⟩
      rw [Receiver.remembers_iff] at now ⊢
      rcases now with last | known | silent
      · rw [lastForwarded_next] at last
        split at last
        · next forwarded =>
          rw [PeerMap.getElem?_insert_eq] at last
          split at last
          · next here =>
            exact Or.inr (visited ⟨here, apart_of_forwards context own first visit forwarded⟩)
          · exact Or.inl (Or.inl last)
        · exact Or.inl (Or.inl last)
      · rcases introduced_next context own first visit known with here | before
        · exact Or.inr (visited here)
        · exact Or.inl (Or.inr (Or.inl before))
      · rcases muted_next context own first visit silent with here | before
        · exact Or.inr (visited here)
        · exact Or.inl (Or.inr (Or.inr before))
    · exact Or.inr ⟨other, List.mem_cons_of_mem _ listed, here⟩

/-- The identity packets of a turn are about visited candidates that are not kept apart. -/
theorem identities_foldl {others : List Candidate} {packet : OutboundPacket}
    (due : packet ∈ (others.foldl (next context own) visit).identities) :
    packet ∈ visit.identities ∨ ∃ other ∈ others, own.apart other = false ∧
      ∃ identity, packet = .avatarIdentity other.id identity := by
  induction others generalizing visit with
  | nil => exact Or.inl due
  | cons first rest ih =>
    rcases ih _ due with now | ⟨other, listed, about⟩
    · rcases identities_next context own first visit now with before | about
      · exact Or.inl before
      · exact Or.inr ⟨first, List.mem_cons_self, about⟩
    · exact Or.inr ⟨other, List.mem_cons_of_mem _ listed, about⟩

end Visit

end AvatarRelay
