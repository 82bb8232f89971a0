/-
# Gains

What one visit adds to a receiver's turn is told apart from what the turn had gathered before:
the answers of the visit are put together in one gain, and the turn absorbs it. All the visits
of a turn then come down to their gains, field by field, and what a turn counts and draws is
the sum over its visits.
-/

import AvatarRelay.Proofs.Turns

namespace AvatarRelay

-- The zero of a sum is that of the numerals, whatever other instances are in scope.
attribute [local instance (2000)] Zero.ofOfNat0

namespace Random

variable (random : Random)

def skip (random : Random) : Nat → Random
  | 0 => random
  | draws + 1 => skip random.unit.2 draws

@[simp]
theorem skip_zero : random.skip 0 = random := rfl

theorem skip_skip (first second : Nat) :
    (random.skip first).skip second = random.skip (first + second) := by
  induction first generalizing random with
  | zero => rw [skip_zero, Nat.zero_add]
  | succ first ih =>
    rw [Nat.succ_add]
    exact ih random.unit.2

end Random

namespace Counters

variable (first second third : Counters)

theorem add_comm : first + second = second + first := by
  change Counters.add first second = Counters.add second first
  simp only [Counters.add, UInt64.add_comm]

theorem add_assoc : first + second + third = first + (second + third) := by
  change Counters.add (Counters.add first second) third =
    Counters.add first (Counters.add second third)
  simp only [Counters.add, UInt64.add_assoc]

@[simp]
theorem add_zero : first + zero = first := by
  change Counters.add first zero = first
  simp only [Counters.add, zero, UInt64.add_zero]

@[simp]
theorem zero_add : zero + first = first := by
  rw [add_comm, add_zero]

theorem add_right_comm : first + second + third = first + third + second := by
  rw [add_assoc, add_comm second, add_assoc]

def sum (counts : List Counters) : Counters :=
  counts.foldl (· + ·) zero

theorem foldl_add (start : Counters) (counts : List Counters) :
    counts.foldl (· + ·) start = start + sum counts := by
  induction counts generalizing start with
  | nil => exact (add_zero start).symm
  | cons first rest ih =>
    have whole : sum (first :: rest) = zero + first + sum rest := ih _
    rw [List.foldl_cons, ih, whole, zero_add, add_assoc]

theorem sum_cons (rest : List Counters) : sum (first :: rest) = first + sum rest := by
  rw [sum, List.foldl_cons, foldl_add, zero_add]

theorem sum_append (earlier later : List Counters) :
    sum (earlier ++ later) = sum earlier + sum later := by
  rw [sum, List.foldl_append, foldl_add]
  rfl

@[simp]
theorem sum_singleton : sum [first] = first :=
  zero_add first

/-- A sum of counters has in each of the ten fields, that of the listeners included, the sum of
what the passes have there. -/
theorem sum_eq (counts : List Counters) :
    sum counts =
      { listeners := (counts.map listeners).sum
        identityPackets := (counts.map identityPackets).sum
        avatarsSent := (counts.map avatarsSent).sum
        heldBack := (counts.map heldBack).sum
        skipped := (counts.map skipped).sum
        outOfOrder := (counts.map outOfOrder).sum
        contended := (counts.map contended).sum
        mutedByBubble := (counts.map mutedByBubble).sum
        bytesSent := (counts.map bytesSent).sum
        sendFailures := (counts.map sendFailures).sum } := by
  induction counts with
  | nil => rfl
  | cons first rest ih =>
    rw [sum_cons, ih]
    rfl

end Counters

/-- What one visit adds to a turn. -/
structure Gain where
  /-- The candidate is left out because it is busy. -/
  contended : Bool := false
  /-- The answer of the bubble, if it is asked. -/
  muted : Option Bool := none
  /-- The candidate counts as introduced from now on. -/
  introduced : Bool := false
  /-- The identity that goes out. -/
  identity : Option Identity := none
  /-- The distance, if it is measured. -/
  distance : Option Binary32 := none
  outOfOrder : Bool := false
  heldBack : Bool := false
  skipped : Bool := false
  /-- The update that goes into the batch. -/
  update : Option Bytes := none
  /-- How often chance is drawn. -/
  draws : Nat := 0
  deriving DecidableEq

namespace Gain

variable (gain : Gain) (other : Candidate)

def introductions : List OutboundPacket :=
  gain.identity.toList.map (.avatarIdentity other.id)

def segments : List Segment :=
  gain.update.toList.map fun update => ⟨other.id, update⟩

/-- What is counted in the course of the visits. -/
def counts : Counters :=
  { Counters.zero with
    heldBack := gain.heldBack.toUInt64
    skipped := gain.skipped.toUInt64
    outOfOrder := gain.outOfOrder.toUInt64
    contended := gain.contended.toUInt64
    mutedByBubble := (gain.muted.getD false).toUInt64 }

theorem add_counts (counters : Counters) :
    counters + gain.counts =
      { counters with
        heldBack := counters.heldBack + gain.heldBack.toUInt64
        skipped := counters.skipped + gain.skipped.toUInt64
        outOfOrder := counters.outOfOrder + gain.outOfOrder.toUInt64
        contended := counters.contended + gain.contended.toUInt64
        mutedByBubble := counters.mutedByBubble + (gain.muted.getD false).toUInt64 } := by
  change Counters.add counters gain.counts = _
  simp only [Counters.add, counts, Counters.zero, UInt64.add_zero]

def widen (farthest : Option Binary32) : Option Binary32 :=
  match gain.distance with
  | none => farthest
  | some distance => some (farthest.elim distance fun farthest => farthest.max distance)

def silence (id : PeerId) (muted : PeerSet) : PeerSet :=
  match gain.muted with
  | none => muted
  | some true => muted.insert id
  | some false => muted.erase id

/-- The gain together with that of forwarding the candidate, which was last forwarded under a
number, if it was ever; an update is full or not. -/
def forwarding (last : Option SequenceNumber) (full : Bool) : Gain :=
  let standing := Sequence.standing (last.getD 0) other.sender.latest
  { gain with
    outOfOrder := Sequence.outOfOrder (last.getD 0) other.sender.latest
    heldBack := !standing.sends
    skipped := standing = .gap
    update := if standing.sends then some (other.avatar.encodeUpdate full) else none
    draws := gain.draws + (standing.sends && last.isSome).toNat }

end Gain

def Receiver.absorb (receiver : Receiver) (other : Candidate) (gain : Gain) : Receiver :=
  { receiver with
    lastForwarded :=
      if gain.update.isSome then receiver.lastForwarded.insert other.id other.sender.latest
      else receiver.lastForwarded
    introduced :=
      if gain.introduced then receiver.introduced.insert other.id else receiver.introduced
    muted := gain.silence other.id receiver.muted
    sentLastPass := receiver.sentLastPass + gain.update.isSome.toNat
    heldBackLastPass := receiver.heldBackLastPass + gain.heldBack.toNat
    skippedLastPass := receiver.skippedLastPass + gain.skipped.toNat
    outOfOrderLastPass := receiver.outOfOrderLastPass + gain.outOfOrder.toNat
    outOfOrderTotal := receiver.outOfOrderTotal + gain.outOfOrder.toUInt64 }

namespace Visit

variable (context : PassContext) (own other : Candidate) (visit : Visit)

def absorb (gain : Gain) : Visit where
  receiver := visit.receiver.absorb other gain
  random := visit.random.skip gain.draws
  identities := visit.identities ++ gain.introductions other
  batch := ⟨visit.batch.segments ++ gain.segments other⟩
  farthest := gain.widen visit.farthest
  counters := visit.counters + gain.counts

/-- What the visit asks of a candidate that the bubble let pass, until it comes to
forwarding. -/
def hearing : Gain :=
  let known := visit.receiver.introduced.contains other.id
  let due := (identityDue context other known visit.random).1
  let certain := !known || other.identityChangedSince context.lastPass
  let distance := own.distanceTo other
  { muted := some false
    introduced := other.avatar.identity.isSome
    identity := if due then other.avatar.identity else none
    distance := some distance
    draws := (other.avatar.identity.isSome && !certain).toNat + (!distance.numEq 0).toNat }

def gain : Gain :=
  if own.apart other then {}
  else if context.busy other.id then { contended := true }
  else if own.muted other then { muted := some true }
  else if visit.admits context own other then
    (visit.hearing context own other).forwarding other visit.receiver.lastForwarded[other.id]?
      (visit.sendsFull context own other)
  else visit.hearing context own other

variable {context own other}

theorem identityDue_snd (known : Bool) (random : Random) :
    (identityDue context other known random).2 =
      random.skip (!(!known || other.identityChangedSince context.lastPass)).toNat := by
  rw [identityDue]
  cases !known || other.identityChangedSince context.lastPass <;> rfl

theorem admission_snd (fullRateDistance distance : Binary32) (random : Random) :
    (admission fullRateDistance distance random).2 =
      random.skip (!distance.numEq 0).toNat := by
  rw [admission]
  cases distance.numEq 0 <;> rfl

theorem fullness_snd (first : Bool) (random : Random) :
    (fullness context first random).2 = random.skip (!first).toNat := by
  rw [fullness]
  cases first <;> rfl

theorem chanceOfFullness_eq :
    visit.chanceOfFullness context own other =
      visit.random.skip (visit.hearing context own other).draws := by
  rw [chanceOfFullness, admission_snd, hearing, ← Random.skip_skip]
  congr 1
  rw [chanceOfAdmission, unmuted, introduce]
  cases other.avatar.identity with
  | none => rfl
  | some identity => exact identityDue_snd _ _

variable (other) in
@[simp]
theorem absorb_nothing : visit.absorb other {} = visit := by
  have counted : visit.counters + Gain.counts {} = visit.counters := Counters.add_zero _
  rw [absorb, counted]
  simp [Receiver.absorb, Gain.silence, Gain.introductions, Gain.segments, Gain.widen,
    Bool.toUInt64]

theorem contended_eq : visit.contended = visit.absorb other { contended := true } := by
  simp [contended, absorb, Receiver.absorb, Gain.silence, Gain.introductions, Gain.segments,
    Gain.widen, Gain.add_counts, Bool.toUInt64]

theorem markMuted_eq :
    visit.markMuted other.id true = visit.absorb other { muted := some true } := by
  simp [markMuted, Receiver.setMuted, absorb, Receiver.absorb, Gain.silence,
    Gain.introductions, Gain.segments, Gain.widen, Gain.add_counts, Bool.toUInt64]

theorem considered_eq :
    visit.considered context own other =
      visit.absorb other (visit.hearing context own other) := by
  have counted : (visit.hearing context own other).counts = Counters.zero := rfl
  rw [considered, chanceOfFullness_eq, absorb, counted, Counters.add_zero]
  simp only [measure, unmuted, introduce, Gain.widen, hearing]
  cases known : other.avatar.identity with
  | none =>
    simp [markMuted, Receiver.absorb, Gain.silence, Receiver.setMuted, Gain.introductions,
      Gain.segments, Bool.toUInt64]
  | some identity =>
    cases due : (identityDue context other (visit.receiver.introduced.contains other.id)
      visit.random).1 <;>
      simp [markMuted, Receiver.absorb, Gain.silence, Receiver.setMuted, Receiver.introduce,
        Gain.introductions, Gain.segments, Bool.toUInt64, due]

/-- A turn that has absorbed a gain without forwarding comes to forward the candidate. -/
theorem forward_absorb {gain : Gain} (ordered : gain.outOfOrder = false)
    (new : gain.heldBack = false) (near : gain.skipped = false) (unsent : gain.update = none) :
    (visit.absorb other gain).forward context other =
      visit.absorb other (gain.forwarding other visit.receiver.lastForwarded[other.id]?
        (fullness context (!visit.receiver.lastForwarded.contains other.id)
          (visit.random.skip gain.draws)).1) := by
  have kept : (visit.absorb other gain).receiver.lastForwarded = visit.receiver.lastForwarded := by
    simp [absorb, Receiver.absorb, unsent]
  obtain ⟨contended, muted, introduced, identity, distance, disordered, heldBack, skipped, update,
    draws⟩ := gain
  cases ordered
  cases new
  cases near
  cases unsent
  simp only [forward, Receiver.lastFrom, kept, Gain.forwarding,
    ← Std.ExtTreeMap.contains_eq_isSome_getElem?]
  cases Sequence.outOfOrder (visit.receiver.lastForwarded[other.id]?.getD 0) other.sender.latest <;>
    cases Sequence.standing (visit.receiver.lastForwarded[other.id]?.getD 0)
      other.sender.latest <;>
    simp [deliver, countSkipped, countHeldBack, countOutOfOrder, Sequence.Standing.sends,
      fullness_snd, Random.skip_skip, absorb, Receiver.absorb, Gain.silence, Receiver.forwarded,
      Gain.segments, Gain.introductions, Gain.widen, Batch.push, Gain.add_counts, Bool.toUInt64]

theorem next_eq_absorb :
    visit.next context own other = visit.absorb other (visit.gain context own other) := by
  rw [next_eq, gain]
  split
  · exact (visit.absorb_nothing other).symm
  split
  · exact visit.contended_eq
  split
  · exact visit.markMuted_eq
  split
  · rw [considered_eq, forward_absorb visit rfl rfl rfl rfl, ← chanceOfFullness_eq, sendsFull]
  · exact visit.considered_eq

end Visit

namespace Gain

variable (gains : Candidate → Gain) (others : List Candidate)

/-- How often chance is drawn in several visits. -/
def drawsOf : Nat :=
  (others.map fun other => (gains other).draws).sum

/-- What is counted in the course of several visits. -/
def countsOf : Counters :=
  others.foldl (fun counts other => counts + (gains other).counts) Counters.zero

theorem countsOf_eq_sum :
    countsOf gains others = Counters.sum (others.map fun other => (gains other).counts) :=
  List.foldl_map.symm

theorem countsOf_cons (first : Candidate) (rest : List Candidate) :
    countsOf gains (first :: rest) = (gains first).counts + countsOf gains rest := by
  rw [countsOf_eq_sum, List.map_cons, Counters.sum_cons, ← countsOf_eq_sum]

end Gain

namespace Visit

variable (visit : Visit) (gains : Candidate → Gain) (others : List Candidate)

def absorbAll : Visit :=
  others.foldl (fun visit other => visit.absorb other (gains other)) visit

/-- What several visits add, field by field. -/
theorem absorbAll_eq :
    visit.absorbAll gains others =
      { receiver :=
          others.foldl (fun receiver other => receiver.absorb other (gains other)) visit.receiver
        random := visit.random.skip (Gain.drawsOf gains others)
        identities :=
          visit.identities ++ others.flatMap fun other => (gains other).introductions other
        batch :=
          ⟨visit.batch.segments ++ others.flatMap fun other => (gains other).segments other⟩
        farthest := others.foldl (fun farthest other => (gains other).widen farthest) visit.farthest
        counters := visit.counters + Gain.countsOf gains others } := by
  induction others generalizing visit with
  | nil => simp [absorbAll, Gain.drawsOf, Gain.countsOf]
  | cons first rest ih =>
    rw [absorbAll, List.foldl_cons, ← absorbAll, ih]
    simp only [absorb, Random.skip_skip, Gain.drawsOf, List.map_cons, List.sum_cons,
      Gain.countsOf_cons, List.flatMap_cons, List.append_assoc, List.foldl_cons,
      Counters.add_assoc]

section Others

variable (context : PassContext) (own : Candidate)

/-- A visit introduces nobody but the candidate. -/
theorem contains_introduced_next {other : Candidate} {id : PeerId} (apart : id ≠ other.id) :
    (visit.next context own other).receiver.introduced.contains id =
      visit.receiver.introduced.contains id := by
  rw [next_eq_absorb, absorb, Receiver.absorb]
  dsimp only
  split
  · simp [Std.ExtTreeSet.contains_insert, Ne.symm apart]
  · rfl

theorem contains_introduced_foldl_of_not_mem {id : PeerId}
    (absent : id ∉ others.map Candidate.id) :
    (others.foldl (next context own) visit).receiver.introduced.contains id =
      visit.receiver.introduced.contains id := by
  induction others generalizing visit with
  | nil => rfl
  | cons other rest ih =>
    rw [List.map_cons, List.mem_cons, not_or] at absent
    rw [List.foldl_cons, ih _ absent.2, contains_introduced_next visit context own absent.1]

end Others

end Visit

end AvatarRelay
