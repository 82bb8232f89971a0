/-
# Looking peers up

What each change of a directory does to a look-up. A directory is well formed when
every peer stands under its own identifier and no session is numbered above the
latest one; everything that is proved about runs of a relay rests on that.
-/

import AvatarRelay.Peer.Directory

namespace AvatarRelay

/-- What holds before a fold and is kept by each of its steps holds after it. A step
knows which items came before its own. -/
theorem foldl_along {Item State : Type} (step : State → Item → State) {start : State}
    (holds : List Item → State → Prop) (items : List Item) (begins : holds [] start)
    (continues : ∀ earlier item later, items = earlier ++ item :: later →
      holds earlier (earlier.foldl step start) →
      holds (earlier ++ [item]) (step (earlier.foldl step start) item)) :
    holds items (items.foldl step start) := by
  have reaches : ∀ later earlier, items = earlier ++ later →
      holds earlier (earlier.foldl step start) → holds items (items.foldl step start) := by
    intro later
    induction later with
    | nil =>
      intro earlier split held
      rw [split, List.append_nil]
      exact held
    | cons item later ih =>
      intro earlier split held
      apply ih (earlier ++ [item])
      · rw [split, List.append_assoc, List.singleton_append]
      · rw [List.foldl_append]
        exact continues earlier item later split held
  exact reaches items [] rfl begins

namespace PeerMap

theorem values_eq_map_toList {Value : Type} (map : PeerMap Value) :
    map.values = map.toList.map (·.2) := by
  obtain ⟨inner⟩ := map
  induction inner using Std.ExtDTreeMap.inductionOn with
  | mk tree =>
    change tree.inner.values = (Std.DTreeMap.Internal.Impl.Const.toList tree.inner).map (·.2)
    rw [Std.DTreeMap.Internal.Impl.values_eq_map_snd,
      Std.DTreeMap.Internal.Impl.Const.toList_eq_toListModel_map, List.map_map]
    rfl

variable {Value : Type} (map : PeerMap Value) (id other : PeerId)

theorem getElem?_insert_eq (value : Value) :
    (map.insert id value)[other]? = if other = id then some value else map[other]? := by
  simp only [Std.ExtTreeMap.getElem?_insert, Std.LawfulEqCmp.compare_eq_iff_eq,
    @eq_comm _ id other]

theorem getElem?_erase_eq :
    (map.erase id)[other]? = if other = id then none else map[other]? := by
  simp only [Std.ExtTreeMap.getElem?_erase, Std.LawfulEqCmp.compare_eq_iff_eq,
    @eq_comm _ id other]

end PeerMap

namespace PeerSet

variable (set : PeerSet) (id other : PeerId)

theorem contains_insert_iff :
    (set.insert id).contains other = true ↔ other = id ∨ set.contains other = true := by
  rw [Std.ExtTreeSet.contains_insert, Bool.or_eq_true, beq_iff_eq,
    Std.LawfulEqCmp.compare_eq_iff_eq, eq_comm]

theorem contains_erase_iff :
    (set.erase id).contains other = true ↔ other ≠ id ∧ set.contains other = true := by
  rw [Std.ExtTreeSet.contains_erase, Bool.and_eq_true, bne_iff_ne, ne_eq,
    Std.LawfulEqCmp.compare_eq_iff_eq, eq_comm]

end PeerSet

theorem Peer.id_eq_of_key {first second : Peer} (same : first.key = second.key) :
    first.id = second.id :=
  congrArg SessionKey.id same

namespace Directory

variable (directory : Directory)

@[simp]
theorem find?_empty (id : PeerId) : empty.find? id = none := by
  simp [find?, empty]

@[simp]
theorem find?_insert (id other : PeerId) (role : Role) :
    (directory.insert id role).2.find? other =
      if other = id then some (Peer.new id role (directory.lastSession + 1))
      else directory.find? other :=
  PeerMap.getElem?_insert_eq _ _ _ _

@[simp]
theorem find?_modify (id other : PeerId) (change : Peer → Peer) :
    (directory.modify id change).find? other =
      if other = id then (directory.find? other).map change else directory.find? other := by
  simp only [find?, modify, Std.ExtTreeMap.getElem?_modify,
    Std.LawfulEqCmp.compare_eq_iff_eq]
  by_cases same : id = other
  · simp [same]
  · simp [same, Ne.symm same]

@[simp]
theorem lastSession_modify (id : PeerId) (change : Peer → Peer) :
    (directory.modify id change).lastSession = directory.lastSession := rfl

@[simp]
theorem find?_modifyClient (id other : PeerId) (change : Client → Client) :
    (directory.modifyClient id change).find? other =
      if other = id then (directory.find? other).map (·.mapClient change)
      else directory.find? other :=
  directory.find?_modify id other _

@[simp]
theorem lastSession_modifyClient (id : PeerId) (change : Client → Client) :
    (directory.modifyClient id change).lastSession = directory.lastSession := rfl

theorem isSome_client?_modifyClient (id other : PeerId) (change : Client → Client) :
    ((directory.modifyClient id change).client? other).isSome =
      (directory.client? other).isSome := by
  rw [client?, client?, find?_modifyClient]
  split
  · cases directory.find? other with
    | none => rfl
    | some peer => exact Option.isSome_map
  · rfl

/-- A session is found when its identifier is connected in that very session. -/
theorem findSession?_eq_some_iff {key : SessionKey} {peer : Peer} :
    directory.findSession? key = some peer ↔
      directory.find? key.id = some peer ∧ peer.session = key.session := by
  simp [findSession?, Option.filter_eq_some_iff]

theorem findSession?_key {directory : Directory} {peer : Peer}
    (there : directory.find? peer.id = some peer) :
    directory.findSession? peer.key = some peer :=
  (findSession?_eq_some_iff directory).mpr ⟨there, rfl⟩

def without (id : PeerId) : Directory :=
  { directory with peers := directory.peers.erase id }

theorem find?_without (id other : PeerId) :
    (directory.without id).find? other = if other = id then none else directory.find? other :=
  PeerMap.getElem?_erase_eq _ _ _

/-- Only the peer that is taken out leaves. -/
theorem leaves_without {peer : Peer} (there : directory.find? peer.id = some peer)
    (other : PeerId) :
    directory.find? other ≠ none ∧ (directory.without peer.id).find? other = none ↔
      other = peer.id := by
  rw [find?_without]
  by_cases here : other = peer.id
  · simp [here, there]
  · simp [here]

/-- Removing a session takes out the peer that it finds and nobody else. -/
theorem removeSession_eq_some_iff {key : SessionKey} {peer : Peer} {smaller : Directory} :
    directory.removeSession key = some (peer, smaller) ↔
      directory.findSession? key = some peer ∧ smaller = directory.without key.id := by
  simp only [removeSession, without, Option.map_eq_some_iff, Prod.mk.injEq]
  constructor
  · rintro ⟨found, hfound, rfl, rfl⟩
    exact ⟨hfound, rfl⟩
  · rintro ⟨hfound, rfl⟩
    exact ⟨peer, hfound, rfl, rfl⟩

theorem removeSession_eq_none_iff {key : SessionKey} :
    directory.removeSession key = none ↔ directory.findSession? key = none := by
  simp [removeSession]

/-- Directories in which everyone is found alike are the same. -/
theorem ext_find? {first second : Directory}
    (last : first.lastSession = second.lastSession)
    (found : ∀ id, first.find? id = second.find? id) : first = second := by
  obtain ⟨peers, number⟩ := first
  obtain ⟨others, same⟩ := second
  obtain rfl : number = same := last
  rw [show peers = others from Std.ExtTreeMap.ext_getElem? fun {id} => found id]

theorem mem_toList {peer : Peer} :
    peer ∈ directory.toList ↔ ∃ id, directory.find? id = some peer := by
  simp only [toList, PeerMap.values_eq_map_toList, List.mem_map, Prod.exists,
    Std.ExtTreeMap.mem_toList_iff_getElem?_eq_some, find?, exists_eq_right]

theorem mem_matching {order : VisitOrder} {test : Peer → Bool} {peer : Peer} :
    peer ∈ directory.matching order test ↔
      (∃ id, directory.find? id = some peer) ∧ test peer = true := by
  rw [matching, List.mem_filter, (order.perm _).mem_iff, mem_toList]

theorem mem_agents {order : VisitOrder} {peer : Peer} :
    peer ∈ directory.agents order ↔
      (∃ id, directory.find? id = some peer) ∧ peer.role.carriesAvatar = true :=
  directory.mem_matching

/-! ## Well-formed directories -/

/-- Every peer stands under its own identifier. -/
def Keyed : Prop :=
  ∀ ⦃id : PeerId⦄ ⦃peer : Peer⦄, directory.find? id = some peer → peer.id = id

/-- Every peer stands under its own identifier, and sessions are numbered up to the
latest. -/
structure WellFormed : Prop where
  keyed : directory.Keyed
  numbered : ∀ {id : PeerId} {peer : Peer},
    directory.find? id = some peer → peer.session ≤ directory.lastSession

variable {directory}

/-- The listed peers have different identifiers. -/
theorem Keyed.nodup_ids (keyed : directory.Keyed) :
    (directory.toList.map Peer.id).Nodup := by
  have keys : directory.toList.map Peer.id = directory.peers.toList.map (·.1) := by
    rw [toList, PeerMap.values_eq_map_toList, List.map_map]
    apply List.map_congr_left
    rintro ⟨id, peer⟩ listed
    exact keyed (Std.ExtTreeMap.mem_toList_iff_getElem?_eq_some.mp listed)
  rw [keys, List.Nodup, List.pairwise_map]
  apply Std.ExtTreeMap.distinct_keys_toList.imp
  intro first second different same
  exact different (by rw [same, Std.LawfulEqCmp.compare_eq_iff_eq])

theorem Keyed.key_of_findSession? (keyed : directory.Keyed) {key : SessionKey} {peer : Peer}
    (found : directory.findSession? key = some peer) : peer.key = key := by
  obtain ⟨there, session⟩ := directory.findSession?_eq_some_iff.mp found
  rw [Peer.key, keyed there, session]

/-- In a directory in which each peer was changed by itself everyone keeps its place. -/
theorem Keyed.of_map {other : Directory} {change : Peer → Peer} (keyed : directory.Keyed)
    (maps : ∀ id, other.find? id = (directory.find? id).map change)
    (kept : ∀ peer, (change peer).key = peer.key) : other.Keyed := by
  intro id peer found
  rw [maps, Option.map_eq_some_iff] at found
  obtain ⟨before, there, rfl⟩ := found
  exact (Peer.id_eq_of_key (kept before)).trans (keyed there)

theorem Keyed.nodup_agent_ids (keyed : directory.Keyed) (order : VisitOrder) :
    ((directory.agents order).map Peer.id).Nodup :=
  (((order.perm directory.toList).map Peer.id).nodup_iff.mpr keyed.nodup_ids).sublist
    (List.filter_sublist.map Peer.id)

namespace WellFormed

theorem empty : Directory.empty.WellFormed where
  keyed _ _ found := by simp at found
  numbered found := by simp at found

theorem insert (formed : directory.WellFormed) (id : PeerId) (role : Role) :
    (directory.insert id role).2.WellFormed where
  keyed {other peer} found := by
    rw [find?_insert] at found
    split at found
    · next same =>
      cases found
      exact same.symm
    · exact formed.keyed found
  numbered {other peer} found := by
    rw [find?_insert] at found
    split at found
    · cases found
      exact Nat.le_refl _
    · exact Nat.le_succ_of_le (formed.numbered found)

/-- A directory in which everyone was connected before, under the same session, is
well formed as well. -/
theorem of_kept {other : Directory} (formed : directory.WellFormed)
    (last : other.lastSession = directory.lastSession)
    (kept : ∀ {id peer}, other.find? id = some peer →
      ∃ before, directory.find? id = some before ∧ peer.key = before.key) :
    other.WellFormed where
  keyed {id peer} found := by
    obtain ⟨before, hbefore, hkey⟩ := kept found
    exact (Peer.id_eq_of_key hkey).trans (formed.keyed hbefore)
  numbered {id peer} found := by
    obtain ⟨before, hbefore, hkey⟩ := kept found
    rw [last, show peer.session = before.session from congrArg SessionKey.session hkey]
    exact formed.numbered hbefore

/-- A directory in which each peer was changed by itself, under its own session, is well
formed as well. -/
theorem of_map {other : Directory} {change : Peer → Peer} (formed : directory.WellFormed)
    (last : other.lastSession = directory.lastSession)
    (maps : ∀ id, other.find? id = (directory.find? id).map change)
    (kept : ∀ peer, (change peer).key = peer.key) : other.WellFormed :=
  formed.of_kept last fun found => by
    rw [maps, Option.map_eq_some_iff] at found
    obtain ⟨before, there, rfl⟩ := found
    exact ⟨before, there, kept before⟩

end WellFormed

theorem lastSession_foldl {Item : Type} (step : Directory → Item → Directory)
    (keeps : ∀ directory item, (step directory item).lastSession = directory.lastSession)
    (items : List Item) (directory : Directory) :
    (items.foldl step directory).lastSession = directory.lastSession := by
  induction items generalizing directory with
  | nil => rfl
  | cons first rest ih => exact (ih _).trans (keeps directory first)

/-- Steps that each change one of several different peers change exactly those. -/
theorem find?_foldl {Item : Type} (step : Directory → Item → Directory) (key : Item → PeerId)
    (change : Item → Peer → Peer)
    (changes : ∀ directory item id, (step directory item).find? id =
      if id = key item then (directory.find? id).map (change item) else directory.find? id)
    {items : List Item} (distinct : (items.map key).Nodup) (directory : Directory) :
    (∀ item ∈ items, (items.foldl step directory).find? (key item) =
      (directory.find? (key item)).map (change item)) ∧
    ∀ id, id ∉ items.map key → (items.foldl step directory).find? id = directory.find? id := by
  induction items generalizing directory with
  | nil => exact ⟨fun item listed => absurd listed List.not_mem_nil, fun id _ => rfl⟩
  | cons first rest ih =>
    obtain ⟨fresh, distinct⟩ := List.nodup_cons.mp distinct
    obtain ⟨within, without⟩ := ih distinct (step directory first)
    constructor
    · intro item listed
      rcases List.mem_cons.mp listed with rfl | later
      · rw [List.foldl_cons, without _ fresh, changes, if_pos rfl]
      · have apart : key item ≠ key first :=
          fun same => fresh (same ▸ List.mem_map_of_mem later)
        rw [List.foldl_cons, within item later, changes, if_neg apart]
    · intro id absent
      rw [List.map_cons, List.mem_cons, not_or] at absent
      rw [List.foldl_cons, without id absent.2, changes, if_neg absent.1]

end Directory

end AvatarRelay
