/-
# Purges

What carrying on with the purges does. Each connected peer is changed by itself: it
stops ignoring everyone that it is to be purged of, and forgets them unless its client
data is in use. What remains to be done depends only on whose data is in use, so with
all data free nothing remains.
-/

import Mathlib.Data.List.Induction
import AvatarRelay.Proofs.Departures
import AvatarRelay.Proofs.Turns

namespace AvatarRelay

namespace Receiver

variable (receiver : Receiver) (departed other : PeerId)

theorem lastForwarded_forget :
    (receiver.forget departed).lastForwarded[other]? =
      if other = departed then none else receiver.lastForwarded[other]? :=
  PeerMap.getElem?_erase_eq _ _ _

theorem remembers_forget :
    (receiver.forget departed).remembers other = true ↔
      other ≠ departed ∧ receiver.remembers other = true := by
  have known : (receiver.forget departed).introduced = receiver.introduced.erase departed := rfl
  have silent : (receiver.forget departed).muted = receiver.muted.erase departed := rfl
  rw [remembers_iff, remembers_iff, lastForwarded_forget, known, silent,
    PeerSet.contains_erase_iff, PeerSet.contains_erase_iff]
  by_cases here : other = departed
  · simp [here]
  · simp [here]

end Receiver

namespace Client

def forgetAll (departed : List PeerId) (client : Client) : Client :=
  departed.foldl forget client

variable (departed : List PeerId) (client : Client)

theorem lastForwarded_forgetAll (other : PeerId) :
    (client.forgetAll departed).receiver.lastForwarded[other]? =
      if other ∈ departed then none else client.receiver.lastForwarded[other]? := by
  induction departed generalizing client with
  | nil => rfl
  | cons first rest ih =>
    refine (ih _).trans ?_
    rw [forget, mapReceiver, Receiver.lastForwarded_forget]
    by_cases here : other = first
    · simp [here]
    · simp [here]

theorem remembers_forgetAll (other : PeerId) :
    (client.forgetAll departed).receiver.remembers other = true ↔
      other ∉ departed ∧ client.receiver.remembers other = true := by
  induction departed generalizing client with
  | nil => simp [forgetAll]
  | cons first rest ih =>
    refine (ih _).trans ?_
    rw [forget, mapReceiver, Receiver.remembers_forget, List.mem_cons, not_or, and_assoc,
      and_left_comm]

end Client

namespace Peer

/-- A peer after it was purged of a departed one, while its client data is in use or
free. -/
def purged (busy : Bool) (peer : Peer) (departed : PeerId) : Peer :=
  if busy then peer.unignore departed
  else (peer.unignore departed).mapClient (·.forget departed)

def purgedOfAll (busy : Bool) (departed : List PeerId) (peer : Peer) : Peer :=
  departed.foldl (purged busy) peer

variable {busy : Bool}

@[simp]
theorem key_purged (peer : Peer) (departed : PeerId) :
    (peer.purged busy departed).key = peer.key := by
  cases busy <;> rfl

@[simp]
theorem isSome_client_purged (peer : Peer) (departed : PeerId) :
    (peer.purged busy departed).client.isSome = peer.client.isSome := by
  cases busy
  · exact Option.isSome_map
  · rfl

theorem purgedOfAll_append (first second : List PeerId) (peer : Peer) :
    peer.purgedOfAll busy (first ++ second) =
      (peer.purgedOfAll busy first).purgedOfAll busy second :=
  List.foldl_append

@[simp]
theorem key_purgedOfAll (departed : List PeerId) (peer : Peer) :
    (peer.purgedOfAll busy departed).key = peer.key := by
  induction departed generalizing peer with
  | nil => rfl
  | cons first rest ih => exact (ih _).trans (peer.key_purged first)

@[simp]
theorem role_purgedOfAll (departed : List PeerId) (peer : Peer) :
    (peer.purgedOfAll busy departed).role = peer.role := by
  induction departed generalizing peer with
  | nil => rfl
  | cons first rest ih =>
    refine (ih _).trans ?_
    cases busy <;> rfl

@[simp]
theorem isSome_client_purgedOfAll (departed : List PeerId) (peer : Peer) :
    (peer.purgedOfAll busy departed).client.isSome = peer.client.isSome := by
  induction departed generalizing peer with
  | nil => rfl
  | cons first rest ih => exact (ih _).trans (peer.isSome_client_purged first)

/-- A purged peer ignores none of those it was purged of, whether its data was in use or
not. -/
theorem isIgnoring_purgedOfAll (departed : List PeerId) (peer : Peer) (other : PeerId) :
    (peer.purgedOfAll busy departed).isIgnoring other = true ↔
      other ∉ departed ∧ peer.isIgnoring other = true := by
  induction departed generalizing peer with
  | nil => simp [purgedOfAll]
  | cons first rest ih =>
    have once : (peer.purged busy first).isIgnoring other = true ↔
        other ≠ first ∧ peer.isIgnoring other = true := by
      cases busy <;> exact PeerSet.contains_erase_iff _ _ _
    refine (ih _).trans ?_
    rw [once, List.mem_cons, not_or, and_assoc, and_left_comm]

/-- Client data that is in use stays; of other data all that is remembered of the
departed is dropped. -/
theorem client_purgedOfAll (departed : List PeerId) (peer : Peer) :
    (peer.purgedOfAll busy departed).client =
      if busy then peer.client else peer.client.map (·.forgetAll departed) := by
  induction departed generalizing peer with
  | nil =>
    change peer.client = if busy = true then peer.client else peer.client.map fun client => client
    rw [Option.map_id', ite_self]
  | cons first rest ih =>
    refine (ih _).trans ?_
    cases busy with
    | true => rfl
    | false =>
      simp only [Bool.false_eq_true, if_false, purged, client_mapClient, Option.map_map]
      rfl

/-- Nobody that was not purged before is remembered less. -/
theorem remembers_purgedOfAll (departed : List PeerId) (peer : Peer) (other : PeerId) :
    (peer.purgedOfAll busy departed).remembers other = true ↔
      (busy = true ∨ other ∉ departed) ∧ peer.remembers other = true := by
  rw [remembers, client_purgedOfAll, remembers]
  cases busy <;> cases peer.client <;> simp [Client.remembers_forgetAll]

/-- Free client data has no entry about those that the peer was purged of; all other
entries stay. -/
theorem lastForwarded_purgedOfAll (departed : List PeerId) (peer : Peer) (other : PeerId) :
    (peer.purgedOfAll busy departed).lastForwarded other =
      if busy = false ∧ other ∈ departed then none else peer.lastForwarded other := by
  rw [lastForwarded, client_purgedOfAll, lastForwarded]
  cases busy <;> cases peer.client <;> simp [Client.lastForwarded_forgetAll]

end Peer

namespace Relay

/-- A session stays on the list of a purge: its client data is in use. -/
def lingers (busy : SessionKey → Bool) (directory : Directory) (key : SessionKey) : Bool :=
  busy key && (directory.findSession? key).all (·.client.isSome)

theorem lingers_free (directory : Directory) (key : SessionKey) :
    lingers (fun _ => false) directory key = false := rfl

/-- A connected session stays on its lists if its client data is there and in use. -/
theorem lingers_of_connected (busy : SessionKey → Bool) {directory : Directory} {peer : Peer}
    (connected : directory.find? peer.id = some peer) :
    lingers busy directory peer.key = (busy peer.key && peer.client.isSome) := by
  rw [lingers, Directory.findSession?_key connected, Option.all_some]

/-- Changes that keep sessions and the presence of client data keep who lingers. -/
theorem lingers_map {before after : Directory} {change : Peer → Peer}
    (maps : ∀ id, after.find? id = (before.find? id).map change)
    (kept : ∀ peer, (change peer).key = peer.key)
    (present : ∀ peer, (change peer).client.isSome = peer.client.isSome)
    (busy : SessionKey → Bool) : lingers busy after = lingers busy before := by
  funext key
  have session (peer : Peer) : (change peer).session = peer.session :=
    congrArg SessionKey.session (kept peer)
  simp only [lingers, Directory.findSession?, maps, Option.filter_map, Option.all_map,
    Function.comp_def, session, present]

variable {busy : SessionKey → Bool}

/-- What purges do to a directory: each session is purged of those it is to be purged of,
and nothing else changes. -/
structure Clears (busy : SessionKey → Bool) (due : SessionKey → List PeerId)
    (before after : Directory) : Prop where
  lastSession : after.lastSession = before.lastSession
  maps : ∀ id, after.find? id = (before.find? id).map fun peer =>
    peer.purgedOfAll (busy peer.key) (due peer.key)

namespace Clears

variable {due more : SessionKey → List PeerId} {before middle after : Directory}

theorem nothing (directory : Directory) : Clears busy (fun _ => []) directory directory where
  lastSession := rfl
  maps _ := Option.map_id'.symm

theorem keyed (clears : Clears busy due before after) (keyed : before.Keyed) : after.Keyed :=
  keyed.of_map clears.maps fun _ => Peer.key_purgedOfAll _ _

theorem wellFormed (clears : Clears busy due before after) (formed : before.WellFormed) :
    after.WellFormed :=
  formed.of_map clears.lastSession clears.maps fun _ => Peer.key_purgedOfAll _ _

/-- Purges leave those who linger lingering. -/
theorem lingers_eq (clears : Clears busy due before after) :
    lingers busy after = lingers busy before :=
  lingers_map clears.maps (fun _ => Peer.key_purgedOfAll _ _)
    (fun _ => Peer.isSome_client_purgedOfAll _ _) busy

theorem trans (first : Clears busy due before middle) (second : Clears busy more middle after) :
    Clears busy (fun key => due key ++ more key) before after where
  lastSession := second.lastSession.trans first.lastSession
  maps id := by
    rw [second.maps, first.maps, Option.map_map]
    apply congrArg (Option.map · _)
    funext peer
    rw [Function.comp_apply, Peer.key_purgedOfAll, Peer.purgedOfAll_append]

theorem stale {directory : Directory} (keyed : directory.Keyed) {key : SessionKey}
    (absent : directory.findSession? key = none) (departed : PeerId) :
    Clears busy (fun other => if other = key then [departed] else []) directory directory where
  lastSession := rfl
  maps id := by
    cases there : directory.find? id with
    | none => rfl
    | some peer =>
      have other : peer.key ≠ key := by
        rintro rfl
        rw [← keyed there] at there
        rw [Directory.findSession?_key there] at absent
        cases absent
      rw [Option.map_some, if_neg other]
      rfl

theorem single {directory changed : Directory} (keyed : directory.Keyed) {peer : Peer}
    (there : directory.find? peer.id = some peer) (departed : PeerId)
    (last : changed.lastSession = directory.lastSession)
    (found : ∀ id, changed.find? id =
      if id = peer.id then some (peer.purged (busy peer.key) departed) else directory.find? id) :
    Clears busy (fun other => if other = peer.key then [departed] else []) directory changed where
  lastSession := last
  maps id := by
    rw [found]
    by_cases here : id = peer.id
    · rw [if_pos here, here, there, Option.map_some, if_pos rfl]
      rfl
    · rw [if_neg here]
      cases standing : directory.find? id with
      | none => rfl
      | some other =>
        have different : other.key ≠ peer.key := by
          intro same
          exact here ((keyed standing).symm.trans (Peer.id_eq_of_key same))
        rw [Option.map_some, if_neg different]
        rfl

end Clears

variable (busy : SessionKey → Bool) (departed : PeerId)

/-- What purging one session does: the peer is purged if it is that session, and the
session is done unless it lingers. -/
theorem purgeSession_spec (directory : Directory) (keyed : directory.Keyed) (key : SessionKey) :
    (purgeSession busy departed directory key).1 = !lingers busy directory key ∧
      Clears busy (fun other => if other = key then [departed] else []) directory
        (purgeSession busy departed directory key).2 := by
  cases found : directory.findSession? key with
  | none =>
    simp only [purgeSession, found, lingers, Option.all_none, Bool.and_true, true_and]
    exact Clears.stale keyed found departed
  | some peer =>
    obtain ⟨there, -⟩ := directory.findSession?_eq_some_iff.mp found
    have own : peer.key = key := keyed.key_of_findSession? found
    subst own
    have key_id : peer.key.id = peer.id := rfl
    rw [key_id] at there
    simp only [purgeSession, found, lingers, Option.all_some, key_id]
    refine ⟨?done, Clears.single keyed there departed ?last fun id => ?found⟩
    case done => cases peer.client <;> cases busy peer.key <;> simp
    case last => cases peer.client <;> cases busy peer.key <;> simp
    case found =>
      cases known : peer.client with
      | none =>
        have silent : peer.purged (busy peer.key) departed = peer.unignore departed := by
          unfold Peer.purged
          split
          · rfl
          · exact Peer.mapClient_of_none (by simpa [Peer.unignore] using known) _
        by_cases here : id = peer.id
        · simp [here, there, silent]
        · simp [here]
      | some client =>
        by_cases here : id = peer.id
        · cases occupied : busy peer.key <;> simp [here, there, Peer.purged]
        · cases occupied : busy peer.key <;> simp [here]

theorem purgeRemaining_concat (directory : Directory) (earlier : List SessionKey)
    (key : SessionKey) :
    purgeRemaining busy departed directory (earlier ++ [key]) =
      let before := purgeRemaining busy departed directory earlier
      let done := purgeSession busy departed before.2 key
      (if done.1 then before.1 else before.1 ++ [key], done.2) := by
  simp only [purgeRemaining, List.foldl_append, List.foldl_cons, List.foldl_nil]
  split
  · next finished => simp [finished]
  · next unfinished => simp [unfinished]

theorem purgeRemaining_spec (directory : Directory) (keyed : directory.Keyed)
    (remaining : List SessionKey) :
    let after := purgeRemaining busy departed directory remaining
    after.1 = remaining.filter (lingers busy directory) ∧
      Clears busy (fun key => (remaining.filter (· = key)).map fun _ => departed) directory
        after.2 := by
  induction remaining using List.reverseRecOn with
  | nil => exact ⟨rfl, Clears.nothing directory⟩
  | append_singleton earlier key ih =>
    obtain ⟨kept, clears⟩ := ih
    obtain ⟨done, purged⟩ := purgeSession_spec busy departed _ (clears.keyed keyed) key
    rw [clears.lingers_eq] at done
    simp only [purgeRemaining_concat, done, kept]
    constructor
    · rw [List.filter_append, List.filter_cons, List.filter_nil]
      cases lingers busy directory key <;> simp
    · have due : (fun other => ((earlier ++ [key]).filter (· = other)).map fun _ => departed) =
          fun other => ((earlier.filter (· = other)).map fun _ => departed) ++
            if other = key then [departed] else [] := by
        funext other
        rw [List.filter_append, List.map_append]
        by_cases same : key = other
        · simp [same]
        · simp [same, Ne.symm same]
      rw [due]
      exact clears.trans purged

/-- The departed peers that a session is to be purged of, as purges list it. -/
def dues (purges : List Purge) (key : SessionKey) : List PeerId :=
  purges.flatMap fun purge =>
    (purge.remaining.filter (· = key)).map fun _ => purge.departed

theorem mem_dues {purges : List Purge} {key : SessionKey} {departed : PeerId} :
    departed ∈ dues purges key ↔
      ∃ purge ∈ purges, purge.departed = departed ∧ key ∈ purge.remaining := by
  simp only [dues, List.mem_flatMap, List.mem_map, List.mem_filter, decide_eq_true_eq]
  constructor
  · rintro ⟨purge, listed, _, ⟨within, rfl⟩, rfl⟩
    exact ⟨purge, listed, rfl, within⟩
  · rintro ⟨purge, listed, rfl, within⟩
    exact ⟨purge, listed, key, ⟨within, rfl⟩, rfl⟩

def leftover (directory : Directory) (purge : Purge) : Purge :=
  { purge with remaining := purge.remaining.filter (lingers busy directory) }

def purgeAll (directory : Directory) (purges : List Purge) : List Purge × Directory :=
  purges.foldl
    (fun before purge =>
      let after := purgeRemaining busy purge.departed before.2 purge.remaining
      (before.1 ++ [{ purge with remaining := after.1 }], after.2))
    ([], directory)

theorem purgeAll_spec (directory : Directory) (keyed : directory.Keyed) (purges : List Purge) :
    let after := purgeAll busy directory purges
    after.1 = purges.map (leftover busy directory) ∧
      Clears busy (dues purges) directory after.2 := by
  induction purges using List.reverseRecOn with
  | nil => exact ⟨rfl, Clears.nothing directory⟩
  | append_singleton earlier purge ih =>
    obtain ⟨kept, clears⟩ := ih
    obtain ⟨done, purged⟩ :=
      purgeRemaining_spec busy purge.departed _ (clears.keyed keyed) purge.remaining
    rw [clears.lingers_eq] at done
    have stepped : purgeAll busy directory (earlier ++ [purge]) =
        let before := purgeAll busy directory earlier
        let after := purgeRemaining busy purge.departed before.2 purge.remaining
        (before.1 ++ [{ purge with remaining := after.1 }], after.2) :=
      List.foldl_append
    rw [stepped]
    constructor
    · rw [List.map_append, ← kept]
      exact congrArg (fun remaining => _ ++ [{ purge with remaining := remaining }]) done
    · have due : dues (earlier ++ [purge]) = fun key => dues earlier key ++
          (purge.remaining.filter (· = key)).map fun _ => purge.departed := by
        funext key
        simp [dues]
      rw [due]
      exact clears.trans purged

variable (relay : Relay)

/-- What carrying on with all purges does. -/
theorem retryPurges_spec (keyed : relay.directory.Keyed) :
    (relay.retryPurges busy).purges =
        (relay.purges.map (leftover busy relay.directory)).filter (!·.remaining.isEmpty) ∧
      Clears busy (dues relay.purges) relay.directory (relay.retryPurges busy).directory := by
  have same : relay.retryPurges busy =
      { relay with
        directory := (purgeAll busy relay.directory relay.purges).2
        purges := (purgeAll busy relay.directory relay.purges).1.filter
          (!·.remaining.isEmpty) } := rfl
  obtain ⟨kept, clears⟩ := purgeAll_spec busy relay.directory keyed relay.purges
  rw [same, ← kept]
  exact ⟨rfl, clears⟩

/-- What is still owed after carrying on with all purges is owed by sessions that linger. -/
theorem owes_retryPurges (keyed : relay.directory.Keyed) (holder : SessionKey)
    (departed : PeerId) :
    (relay.retryPurges busy).Owes [] holder departed ↔
      relay.Owes [] holder departed ∧ lingers busy relay.directory holder = true := by
  have nothing (key : SessionKey) : PeerEvent.replaced key ∉ [] := List.not_mem_nil
  simp only [Owes, (relay.retryPurges_spec busy keyed).1, List.mem_filter, List.mem_map]
  constructor
  · rintro (⟨_, ⟨⟨purge, listed, rfl⟩, -⟩, rfl, within⟩ | ⟨key, coming, -⟩)
    · obtain ⟨within, lingering⟩ := List.mem_filter.mp within
      exact ⟨Or.inl ⟨purge, listed, rfl, within⟩, lingering⟩
    · exact absurd coming (nothing key)
  · rintro ⟨⟨purge, listed, rfl, within⟩ | ⟨key, coming, -⟩, lingering⟩
    · have kept : holder ∈ purge.remaining.filter (lingers busy relay.directory) :=
        List.mem_filter.mpr ⟨within, lingering⟩
      refine Or.inl ⟨_, ⟨⟨purge, listed, rfl⟩, ?_⟩, rfl, kept⟩
      rw [Bool.not_eq_true', List.isEmpty_eq_false_iff]
      exact List.ne_nil_of_mem kept
    · exact absurd coming (nothing key)

end Relay

end AvatarRelay
