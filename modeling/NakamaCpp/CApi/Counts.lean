import NakamaCpp.CApi.DataRoundTrip
import NakamaCpp.CApi.RtWrapper

/-!
# Counts at the C interface

A list crosses the C interface as an array and a 16-bit count, a map as 16-bit many keys that are
looked up one after the other.  Every list and map that a request or a callback is given is a
`Collection`; what comes of it on the other side is its `pass`.

    c.pass = some c ↔ c.Intact                                              (pass_eq_iff)
    all of them arrive ↔ all of them are intact                             (counts_survive_iff)
-/

namespace NakamaCpp.CApi

open Rest hiding NStringMap
open Realtime CInterop

/-! ## Arrays -/

/-- What an array is of: the first five in a request, the others in a callback. -/
inductive ArrayKind
  | texts | storageObjectWrites | readStorageObjectIds | deleteStorageObjectIds | recipients
  | devices | users | friends | groups | groupUsers | userGroups | records | tournaments
  | presences | matches_ | storageObjects | storageObjectAcks | notifications | messages
  | matchmakerUsers
deriving DecidableEq, Repr

namespace ArrayKind

abbrev Elem : ArrayKind → Type
  | .texts => String
  | .storageObjectWrites => NStorageObjectWrite
  | .readStorageObjectIds => NReadStorageObjectId
  | .deleteStorageObjectIds => NDeleteStorageObjectId
  | .recipients => NUserPresence
  | .devices => NAccountDevice
  | .users => NUser
  | .friends => NFriend
  | .groups => NGroup
  | .groupUsers => NGroupUser
  | .userGroups => NUserGroup
  | .records => NLeaderboardRecord
  | .tournaments => NTournament
  | .presences => NUserPresence
  | .matches_ => NMatch
  | .storageObjects => NStorageObject
  | .storageObjectAcks => NStorageObjectAck
  | .notifications => NNotification
  | .messages => NChannelMessage
  | .matchmakerUsers => NMatchmakerUser

/-- The list that is made of the array on the other side. -/
def pass : (k : ArrayKind) → List k.Elem → Option (List k.Elem)
  | .texts, l => some (CApi.texts (cStrs l))
  | .storageObjectWrites, l =>
    (CArray.alloc cStorageObjectWrite l).toList.mapM cppStorageObjectWrite
  | .readStorageObjectIds, l =>
    some ((CArray.alloc cReadStorageObjectId l).toList.map cppReadStorageObjectId)
  | .deleteStorageObjectIds, l =>
    some ((CArray.ofList (l.map cDeleteStorageObjectId)).toList.map cppDeleteStorageObjectId)
  | .recipients, l =>
    some ((CArray.ofList (l.map SNUserPresence.assign)).toList.map NUserPresence.assign)
  | .devices, l => some ((CArray.alloc SNAccountDevice.assign l).toList.map NAccountDevice.assign)
  | .users, l => some ((CArray.alloc SNUser.assign l).toList.map NUser.assign)
  | .friends, l => some ((CArray.alloc SNFriend.assign l).toList.map NFriend.assign)
  | .groups, l => some ((CArray.alloc SNGroup.assign l).toList.map NGroup.assign)
  | .groupUsers, l => some ((CArray.alloc SNGroupUser.assign l).toList.map NGroupUser.assign)
  | .userGroups, l => some ((CArray.alloc SNUserGroup.assign l).toList.map NUserGroup.assign)
  | .records, l =>
    some ((CArray.alloc SNLeaderboardRecord.assign l).toList.map NLeaderboardRecord.assign)
  | .tournaments, l => some ((CArray.alloc SNTournament.assign l).toList.map NTournament.assign)
  | .presences, l => some ((CArray.alloc SNUserPresence.assign l).toList.map NUserPresence.assign)
  | .matches_, l => some ((CArray.alloc SNMatch.assign l).toList.map NMatch.assign)
  | .storageObjects, l =>
    some ((CArray.alloc SNStorageObject.assign l).toList.map NStorageObject.assign)
  | .storageObjectAcks, l =>
    some ((CArray.alloc SNStorageObjectAck.assign l).toList.map NStorageObjectAck.assign)
  | .notifications, l =>
    some ((CArray.alloc SNNotification.assign l).toList.map NNotification.assign)
  | .messages, l =>
    some ((CArray.alloc SNChannelMessage.assign l).toList.map NChannelMessage.assign)
  | .matchmakerUsers, l =>
    (CArray.alloc SNMatchmakerUser.assign l).toList.mapM NMatchmakerUser.assign

/-- One element on its own: written to C, and read. -/
def cross : (k : ArrayKind) → k.Elem → Option k.Elem
  | .texts, s => some (cStr s).text
  | .storageObjectWrites, object => cppStorageObjectWrite (cStorageObjectWrite object)
  | .readStorageObjectIds, id => some (cppReadStorageObjectId (cReadStorageObjectId id))
  | .deleteStorageObjectIds, id => some (cppDeleteStorageObjectId (cDeleteStorageObjectId id))
  | .recipients, presence => some (NUserPresence.assign (.assign presence))
  | .devices, device => some (NAccountDevice.assign (.assign device))
  | .users, user => some (NUser.assign (.assign user))
  | .friends, aFriend => some (NFriend.assign (.assign aFriend))
  | .groups, group => some (NGroup.assign (.assign group))
  | .groupUsers, groupUser => some (NGroupUser.assign (.assign groupUser))
  | .userGroups, userGroup => some (NUserGroup.assign (.assign userGroup))
  | .records, record => some (NLeaderboardRecord.assign (.assign record))
  | .tournaments, t => some (NTournament.assign (.assign t))
  | .presences, presence => some (NUserPresence.assign (.assign presence))
  | .matches_, game => some (NMatch.assign (.assign game))
  | .storageObjects, object => some (NStorageObject.assign (.assign object))
  | .storageObjectAcks, ack => some (NStorageObjectAck.assign (.assign ack))
  | .notifications, n => some (NNotification.assign (.assign n))
  | .messages, msg => some (NChannelMessage.assign (.assign msg))
  | .matchmakerUsers, user => NMatchmakerUser.assign (.assign user)

/-- No text of the element has a NUL, a device has no variables, and the lists and maps in the
element are small enough themselves. -/
def Portable : (k : ArrayKind) → k.Elem → Prop
  | .texts, s => NulFree s
  | .storageObjectWrites, object =>
    AllNulFree [object.collection, object.key, object.value, object.version]
  | .readStorageObjectIds, id => AllNulFree [id.collection, id.key, id.userId]
  | .deleteStorageObjectIds, id => AllNulFree [id.collection, id.key, id.version]
  | .recipients, presence => presence.Portable
  | .devices, device => device.Portable ∧ device.vars = ∅
  | .users, user => user.Portable
  | .friends, aFriend => aFriend.Portable
  | .groups, group => group.Portable
  | .groupUsers, groupUser => groupUser.Portable
  | .userGroups, userGroup => userGroup.Portable
  | .records, record => record.Portable
  | .tournaments, t => t.Portable
  | .presences, presence => presence.Portable
  | .matches_, game => game.Portable
  | .storageObjects, object => object.Portable
  | .storageObjectAcks, ack => ack.Portable
  | .notifications, n => n.Portable
  | .messages, msg => msg.Portable
  | .matchmakerUsers, user => user.Portable

/-- The elements that fit the count, each on its own. -/
theorem pass_eq (k : ArrayKind) (l : List k.Elem) :
    k.pass l = (l.take (l.length % 2 ^ 16)).mapM k.cross := by
  cases k with
  | texts => exact CArray.some_map_ofList _ _ l
  | storageObjectWrites => exact CArray.mapM_alloc _ _ l
  | deleteStorageObjectIds => exact CArray.some_map_ofList _ _ l
  | recipients => exact CArray.some_map_ofList _ _ l
  | matchmakerUsers => exact CArray.mapM_alloc _ _ l
  | _ => exact CArray.some_map_alloc _ _ l

end ArrayKind

/-! ## Elements -/

theorem allNulFree_mapTexts_iff {map : NStringMap} :
    AllNulFree (mapTexts map) ↔ (∀ k ∈ map, NulFree k) ∧
      ∀ k v : String, map[k]? = some v → (CStr.ofString v).text = v := by
  constructor
  · intro h
    exact ⟨fun k hk => nulFree_key h hk, fun k v hv => CStr.text_ofString (nulFree_entry h hv).2⟩
  · rintro ⟨hk, hv⟩ s hs
    obtain ⟨p, hp, hsp⟩ := List.mem_flatMap.1 hs
    have hget := Std.ExtTreeMap.mem_toList_iff_getElem?_eq_some.1 hp
    simp only [List.mem_cons, List.not_mem_nil, or_false] at hsp
    rcases hsp with rfl | rfl
    · exact hk p.1 (Std.ExtTreeMap.mem_iff_isSome_getElem?.2 (by rw [hget]; rfl))
    · exact CStr.text_ofString_iff.1 (hv p.1 p.2 hget)

/-- A saved map is read back exactly when it has no NUL and at most 65535 entries. -/
theorem readStringMap_iff {map : NStringMap} :
    toCppNStringMap (some map) = some map ↔ PortableStringMap map := by
  rw [PortableStringMap, allNulFree_mapTexts_iff]
  exact readMap_eq_iff fun _ _ h => by cases h

theorem readDoubleMap_iff {map : NStringDoubleMap} :
    toCppNStringDoubleMap (some map) = some map ↔ PortableDoubleMap map := by
  have hkeys : AllNulFree map.keys ↔
      (∀ k ∈ map, NulFree k) ∧ ∀ (k : String) (v : Float), map[k]? = some v → id v = v := by
    simp only [AllNulFree, Std.ExtTreeMap.mem_keys, id, implies_true, and_true]
  rw [PortableDoubleMap, hkeys]
  exact readMap_eq_iff fun m₁ m₂ h => (Option.some.inj h).symm

theorem portableStringMap_empty : PortableStringMap ∅ := ⟨by decide, by decide⟩

theorem portableDoubleMap_empty : PortableDoubleMap ∅ := ⟨by decide, by decide⟩

theorem saveStringMap_iff {map : NStringMap} :
    toCppNStringMap (saveMap map) = some map ↔ PortableStringMap map := by
  rcases saveMap_cases map with ⟨rfl, hsave⟩ | hsave
  · rw [hsave]
    exact iff_of_true rfl portableStringMap_empty
  · rw [hsave, readStringMap_iff]

theorem saveDoubleMap_iff {map : NStringDoubleMap} :
    toCppNStringDoubleMap (saveMap map) = some map ↔ PortableDoubleMap map := by
  rcases saveMap_cases map with ⟨rfl, hsave⟩ | hsave
  · rw [hsave]
    exact iff_of_true rfl portableDoubleMap_empty
  · rw [hsave, readDoubleMap_iff]

theorem NMatchmakerUser.assign_assign_iff {user : NMatchmakerUser} :
    NMatchmakerUser.assign (.assign user) = some user ↔ user.Portable := by
  rcases user with ⟨presence, stringProperties, numericProperties⟩
  simp only [NMatchmakerUser.assign, SNMatchmakerUser.assign, Option.bind_eq_bind,
    Option.bind_eq_some_iff, Option.pure_def, Option.some_inj, NMatchmakerUser.mk.injEq,
    NMatchmakerUser.Portable, NUserPresence.assign_assign_iff, ← saveStringMap_iff,
    ← saveDoubleMap_iff]
  constructor
  · rintro ⟨s, hs, d, hd, hp, rfl, rfl⟩
    exact ⟨hp, hs, hd⟩
  · rintro ⟨hp, hs, hd⟩
    exact ⟨_, hs, _, hd, hp, rfl, rfl⟩

namespace ArrayKind

/-- An element crosses unchanged exactly when C has a form for all of it. -/
theorem cross_eq_iff {k : ArrayKind} {e : k.Elem} : k.cross e = some e ↔ k.Portable e := by
  cases k with
  | texts => exact Option.some_inj.trans CStr.text_ofString_iff
  | readStorageObjectIds =>
    rcases e with ⟨collection, key, userId⟩
    simp only [cross, cppReadStorageObjectId, cReadStorageObjectId, Option.some_inj,
      NReadStorageObjectId.mk.injEq, Portable, CStr.text_ofString_iff, allNulFree_cons,
      allNulFree_nil, and_true]
  | deleteStorageObjectIds =>
    rcases e with ⟨collection, key, version⟩
    simp only [cross, cppDeleteStorageObjectId, cDeleteStorageObjectId, Option.some_inj,
      NDeleteStorageObjectId.mk.injEq, Portable, CStr.text_ofString_iff, allNulFree_cons,
      allNulFree_nil, and_true]
  | recipients => exact Option.some_inj.trans NUserPresence.assign_assign_iff
  | presences => exact Option.some_inj.trans NUserPresence.assign_assign_iff
  | users => exact Option.some_inj.trans NUser.assign_assign_iff
  | groups => exact Option.some_inj.trans NGroup.assign_assign_iff
  | matches_ => exact Option.some_inj.trans NMatch.assign_assign_iff
  | devices =>
    rcases e with ⟨id, vars⟩
    simp only [cross, NAccountDevice.assign, SNAccountDevice.assign, Option.some_inj,
      NAccountDevice.mk.injEq, Portable, NAccountDevice.Portable, CStr.text_ofString_iff,
      eq_comm (a := vars)]
  | friends => exact Option.some_inj.trans NFriend.assign_assign_iff
  | groupUsers => exact Option.some_inj.trans NGroupUser.assign_assign_iff
  | userGroups => exact Option.some_inj.trans NUserGroup.assign_assign_iff
  | records => exact Option.some_inj.trans NLeaderboardRecord.assign_assign_iff
  | tournaments => exact Option.some_inj.trans NTournament.assign_assign_iff
  | storageObjects => exact Option.some_inj.trans NStorageObject.assign_assign_iff
  | storageObjectAcks => exact Option.some_inj.trans NStorageObjectAck.assign_assign_iff
  | notifications => exact Option.some_inj.trans NNotification.assign_assign_iff
  | messages => exact Option.some_inj.trans NChannelMessage.assign_assign_iff
  | storageObjectWrites =>
    cases e
    simp only [cross, cppStorageObjectWrite_eq, Option.some_inj, NStorageObjectWrite.mk.injEq,
      Portable, CStr.text_ofString_iff, allNulFree_cons, allNulFree_nil, and_true]
  | matchmakerUsers => exact NMatchmakerUser.assign_assign_iff

theorem pass_eq_iff {k : ArrayKind} {l : List k.Elem} :
    k.pass l = some l ↔ Counted l ∧ ∀ e ∈ l, k.Portable e := by
  rw [pass_eq, CArray.mapM_take_eq_some_iff]
  simp only [cross_eq_iff]

end ArrayKind

/-! ## Maps that are sent -/

theorem mapTexts_empty : AllNulFree (mapTexts ∅) := by decide

theorem toCNStringMap_cases (map : NStringMap) :
    map = ∅ ∧ toCNStringMap map = none ∨
      toCNStringMap map = some (writeMap (fun v => (cStr v).text) map) := by
  unfold toCNStringMap
  split
  · next he => exact .inl ⟨Std.ExtTreeMap.isEmpty_iff.1 he, rfl⟩
  · exact .inr rfl

/-- The variables of an authentication are not read key by key. -/
theorem sentVars_iff {map : NStringMap} :
    cppVars (toCNStringMap map) = map ↔ AllNulFree (mapTexts map) := by
  refine ⟨fun h => ?_, cppVars_toCNStringMap⟩
  rcases toCNStringMap_cases map with ⟨rfl, -⟩ | hc
  · exact mapTexts_empty
  · rw [hc] at h
    have hback : writeMap (fun v => (cStr v).text) map = map := h
    have hentry : ∀ k v : String, map[k]? = some v → NulFree k ∧ (CStr.ofString v).text = v := by
      intro k v hv
      rw [← hback] at hv
      obtain ⟨hk, w, rfl⟩ := writeMap_entry hv
      exact ⟨hk, CStr.text_ofString (cStr w).nulFree⟩
    rw [allNulFree_mapTexts_iff]
    refine ⟨fun k hk => ?_, fun k v hv => (hentry k v hv).2⟩
    obtain ⟨v, hv⟩ := Option.isSome_iff_exists.1 (Std.ExtTreeMap.mem_iff_isSome_getElem?.1 hk)
    exact (hentry k v hv).1

theorem sentStringMap_iff {map : NStringMap} :
    toCppNStringMap (toCNStringMap map) = some map ↔ PortableStringMap map := by
  refine ⟨fun h => ?_, toCppNStringMap_toCNStringMap⟩
  have htexts : AllNulFree (mapTexts map) := by
    rcases toCNStringMap_cases map with ⟨rfl, -⟩ | hc
    · exact mapTexts_empty
    · rw [hc] at h
      have hread := readFrom_of_readMap (fun _ _ h => by cases h) h
      rw [allNulFree_mapTexts_iff]
      refine ⟨fun k hk => ?_, fun k v hv => ?_⟩
      · obtain ⟨v, hv⟩ := Option.isSome_iff_exists.1 (Std.ExtTreeMap.mem_iff_isSome_getElem?.1 hk)
        exact (hread k v hv).1
      · obtain ⟨-, w, -, rfl⟩ := hread k v hv
        exact CStr.text_ofString (cStr w).nulFree
  rwa [toCNStringMap_eq htexts, saveStringMap_iff] at h

theorem sentDoubleMap_iff {map : NStringDoubleMap} :
    toCppNStringDoubleMap (toCNStringDoubleMap map) = some map ↔ PortableDoubleMap map := by
  refine ⟨fun h => ?_, toCppNStringDoubleMap_toCNStringDoubleMap⟩
  by_cases he : map.isEmpty
  · rw [Std.ExtTreeMap.isEmpty_iff.1 he]
    exact portableDoubleMap_empty
  · have hc : toCNStringDoubleMap map = some (writeMap id map) := if_neg he
    rw [hc] at h
    have hread := readFrom_of_readMap (fun _ _ h => (Option.some.inj h).symm) h
    have hkeys : ∀ k ∈ map, NulFree k := by
      intro k hk
      obtain ⟨v, hv⟩ := Option.isSome_iff_exists.1 (Std.ExtTreeMap.mem_iff_isSome_getElem?.1 hk)
      exact (hread k v hv).1
    have hwrite : writeMap id map = map := writeMap_eq hkeys fun _ _ _ => rfl
    rw [hwrite] at h
    exact readDoubleMap_iff.1 h

/-! ## Collections -/

/-- A list or a map that crosses the interface. -/
inductive Collection
  | array (k : ArrayKind) (elems : List k.Elem)
  /-- the variables of an authentication -/
  | vars (map : NStringMap)
  /-- a map of a request -/
  | stringMap (map : NStringMap)
  | doubleMap (map : NStringDoubleMap)
  /-- a map of a callback -/
  | savedStringMap (map : NStringMap)
  | savedDoubleMap (map : NStringDoubleMap)

namespace Collection

/-- What arrives. -/
def pass : Collection → Option Collection
  | .array k elems => (k.pass elems).map (.array k)
  | .vars map => some (.vars (cppVars (toCNStringMap map)))
  | .stringMap map => (toCppNStringMap (toCNStringMap map)).map .stringMap
  | .doubleMap map => (toCppNStringDoubleMap (toCNStringDoubleMap map)).map .doubleMap
  | .savedStringMap map => (toCppNStringMap (saveMap map)).map .savedStringMap
  | .savedDoubleMap map => (toCppNStringDoubleMap (saveMap map)).map .savedDoubleMap

/-- A list has at most 65535 elements, a map that is read key by key as many entries, and nothing
in it has a NUL. -/
def Intact : Collection → Prop
  | .array k elems => elems.length < 2 ^ 16 ∧ ∀ e ∈ elems, k.Portable e
  | .vars map => AllNulFree (mapTexts map)
  | .stringMap map => PortableStringMap map
  | .doubleMap map => PortableDoubleMap map
  | .savedStringMap map => PortableStringMap map
  | .savedDoubleMap map => PortableDoubleMap map

theorem pass_eq_iff {c : Collection} : c.pass = some c ↔ c.Intact := by
  have hmap : ∀ {α : Type} {f : α → Collection} {o : Option α} {a : α}, f.Injective →
      (o.map f = some (f a) ↔ o = some a) := by
    intro α f o a hf
    rw [← Option.map_some, (Option.map_injective hf).eq_iff]
  cases c with
  | array k elems => exact (hmap fun _ _ h => by cases h; rfl).trans ArrayKind.pass_eq_iff
  | vars map => exact (hmap (o := some _) fun _ _ h => by cases h; rfl).trans (Option.some_inj.trans sentVars_iff)
  | stringMap map => exact (hmap fun _ _ h => by cases h; rfl).trans sentStringMap_iff
  | doubleMap map => exact (hmap fun _ _ h => by cases h; rfl).trans sentDoubleMap_iff
  | savedStringMap map => exact (hmap fun _ _ h => by cases h; rfl).trans saveStringMap_iff
  | savedDoubleMap map => exact (hmap fun _ _ h => by cases h; rfl).trans saveDoubleMap_iff

/-- All collections arrive exactly when each is intact. -/
theorem mapM_pass_iff {l : List Collection} : l.mapM pass = some l ↔ ∀ c ∈ l, c.Intact := by
  rw [CArray.mapM_eq_some_iff, List.forall₂_same]
  simp only [pass_eq_iff]

end Collection

/-! ## Requests -/

/-- The lists and maps that an operation is given. -/
def collectionsOf : ClientOp → List Collection
  | .authenticateDevice _ _ _ vars => [.vars vars]
  | .authenticateEmail _ _ _ _ vars => [.vars vars]
  | .authenticateFacebook _ _ _ _ vars => [.vars vars]
  | .authenticateGoogle _ _ _ vars => [.vars vars]
  | .authenticateGameCenter _ _ _ vars => [.vars vars]
  | .authenticateCustom _ _ _ vars => [.vars vars]
  | .authenticateSteam _ _ _ vars => [.vars vars]
  | .getUsers _ ids usernames facebookIds =>
    [.array .texts ids, .array .texts usernames, .array .texts facebookIds]
  | .addFriends _ ids usernames => [.array .texts ids, .array .texts usernames]
  | .deleteFriends _ ids usernames => [.array .texts ids, .array .texts usernames]
  | .blockFriends _ ids usernames => [.array .texts ids, .array .texts usernames]
  | .addGroupUsers _ _ ids => [.array .texts ids]
  | .kickGroupUsers _ _ ids => [.array .texts ids]
  | .promoteGroupUsers _ _ ids => [.array .texts ids]
  | .listLeaderboardRecords _ _ ownerIds _ _ => [.array .texts ownerIds]
  | .listTournamentRecords _ _ _ _ ownerIds => [.array .texts ownerIds]
  | .deleteNotifications _ notificationIds => [.array .texts notificationIds]
  | .writeStorageObjects _ objects => [.array .storageObjectWrites objects]
  | .readStorageObjects _ objectIds => [.array .readStorageObjectIds objectIds]
  | .deleteStorageObjects _ objectIds => [.array .deleteStorageObjectIds objectIds]
  | _ => []

def RtOp.collections : RtOp → List Collection
  | .joinMatch _ metadata => [.stringMap metadata]
  | .addMatchmaker _ _ _ stringProperties numericProperties =>
    [.stringMap stringProperties, .doubleMap numericProperties]
  | .sendMatchData _ _ _ presences => [.array .recipients presences]
  | .followUsers userIds => [.array .texts userIds]
  | .unfollowUsers userIds => [.array .texts userIds]
  | _ => []

/-- The session of the operation is alive. -/
def Callable (sessions : Sessions) (cSession : CSession) : ClientOp → Prop
  | .listOwnGroups none .. => False
  | op => ∀ session ∈ sessionOf op, getSession sessions cSession = some session

theorem received_collections {sessions : Sessions} {cSession : CSession} {op : ClientOp}
    (h : Callable sessions cSession op) :
    (received sessions cSession op).map collectionsOf = (collectionsOf op).mapM Collection.pass := by
  cases op
  case listOwnGroups session limit state cursor =>
    cases session with
    | none => exact h.elim
    | some session =>
      have hs : getSession sessions cSession = some session := h session rfl
      simp only [received, NClientWrapper.call, NClientWrapper.listUserGroups, NClientCall.run, hs,
        mapM_castFriendState, Option.map_some, Option.bind_eq_bind, Option.bind_some]
      rfl
  case writeStorageObjects session objects =>
    have hs : getSession sessions cSession = some session := h session rfl
    simp only [received, NClientWrapper.call, NClientCall.run, hs, Option.bind_eq_bind,
      Option.bind_some, collectionsOf, List.mapM_cons, List.mapM_nil, Collection.pass,
      ArrayKind.pass]
    cases (CArray.alloc cStorageObjectWrite objects).toList.mapM cppStorageObjectWrite <;> rfl
  all_goals
    simp only [Callable, sessionOf, Option.mem_some_iff, forall_eq'] at h
  all_goals
    simp only [received, NClientWrapper.call, NClientWrapper.listUserGroups, NClientCall.run, h,
      mapM_castFriendState, Option.bind_eq_bind, Option.bind_some]
    rfl

theorem transmitted_collections (op : RtOp) :
    (NRtClientWrapper.call op).run.map RtOp.collections =
      op.collections.mapM Collection.pass := by
  cases op with
  | joinMatch matchId metadata =>
    simp only [NRtClientWrapper.call, NRtClientCall.run, RtOp.collections, List.mapM_cons,
      List.mapM_nil, Collection.pass]
    cases toCppNStringMap (toCNStringMap metadata) <;> rfl
  | addMatchmaker minCount maxCount query stringProperties numericProperties =>
    simp only [NRtClientWrapper.call, NRtClientCall.run, RtOp.collections, List.mapM_cons,
      List.mapM_nil, Collection.pass]
    cases toCppNStringMap (toCNStringMap stringProperties) with
    | none => rfl
    | some map => cases toCppNStringDoubleMap (toCNStringDoubleMap numericProperties) <;> rfl
  | _ => rfl

/-! ## Callbacks -/

namespace CallbackType

/-- The lists and maps of a value that a callback is given. -/
def collections : (t : CallbackType) → t.Cpp → List Collection
  | .account, x => [.array .devices x.devices]
  | .users, x => [.array .users x.users]
  | .friendList, x => [.array .friends x.friends]
  | .groupList, x => [.array .groups x.groups]
  | .groupUserList, x => [.array .groupUsers x.groupUsers]
  | .userGroupList, x => [.array .userGroups x.userGroups]
  | .leaderboardRecordList, x => [.array .records x.records, .array .records x.ownerRecords]
  | .tournamentList, x => [.array .tournaments x.tournaments]
  | .tournamentRecordList, x => [.array .records x.records, .array .records x.ownerRecords]
  | .matchList, x => [.array .matches_ x.matches_]
  | .notificationList, x => [.array .notifications x.notifications]
  | .channelMessageList, x => [.array .messages x.messages]
  | .storageObjectList, x => [.array .storageObjects x.objects]
  | .storageObjects, x => [.array .storageObjects x]
  | .storageObjectAcks, x => [.array .storageObjectAcks x]
  | .rtError, x => [.savedStringMap x.context]
  | .channel, x => [.array .presences x.presences]
  | .match_, x => [.array .presences x.presences]
  | .status, x => [.array .presences x.presences]
  | .channelPresenceEvent, x => [.array .presences x.joins, .array .presences x.leaves]
  | .matchPresenceEvent, x => [.array .presences x.joins, .array .presences x.leaves]
  | .matchmakerMatched, x =>
    [.array .matchmakerUsers x.users, .savedStringMap x.self.stringProperties,
      .savedDoubleMap x.self.numericProperties]
  | .statusPresenceEvent, x => [.array .presences x.joins, .array .presences x.leaves]
  | .streamPresenceEvent, x => [.array .presences x.joins, .array .presences x.leaves]
  | _, _ => []

theorem roundTrip_collections (garbage : CStr) (t : CallbackType) (x : t.Cpp) :
    (t.roundTrip (some garbage) x).map t.collections =
      (t.collections x).mapM Collection.pass := by
  cases t with
  | error =>
    simp only [roundTrip, assignNError_eq]
    rfl
  | rtError =>
    simp only [roundTrip, assignNRtError, SNRtError.assign, collections, List.mapM_cons,
      List.mapM_nil, Collection.pass]
    cases toCppNStringMap (saveMap x.context) <;> rfl
  | matchmakerMatched =>
    simp only [roundTrip, NMatchmakerMatched.assign, SNMatchmakerMatched.assign,
      NMatchmakerUser.assign, SNMatchmakerUser.assign, collections, List.mapM_cons, List.mapM_nil,
      Collection.pass, ArrayKind.pass]
    -- the users, and then the two maps of the client's own entry
    cases (CArray.alloc SNMatchmakerUser.assign x.users).toList.mapM NMatchmakerUser.assign with
    | none => rfl
    | some users =>
      cases toCppNStringMap (saveMap x.self.stringProperties) with
      | none => rfl
      | some map => cases toCppNStringDoubleMap (saveMap x.self.numericProperties) <;> rfl
  | _ => rfl

end CallbackType

/-! ## Sizes and keys -/

def NStringMap.getSize (map : NStringMap) : UInt16 := map.size.toUInt16

/-- What is written into an array of `n` entries; `none` when it is written past the end. -/
def NStringMap.getKeys (map : NStringMap) (n : Nat) : Option (List CStr) := writeKeys map n

def NStringDoubleMap.getSize (map : NStringDoubleMap) : UInt16 := map.size.toUInt16

def NStringDoubleMap.getKeys (map : NStringDoubleMap) (n : Nat) : Option (List CStr) :=
  writeKeys map n

/-- **Counts.**  All lists and maps of a request or a callback arrive exactly when each is intact,
the keys of a map fit an array of its size exactly when there are at most 65535, and a saved map
is read back exactly when it is as small and has no NUL. -/
theorem counts_survive_iff (sessions : Sessions) (cSession : CSession) (op : ClientOp) (rtOp : RtOp)
    (garbage : CStr) (t : CallbackType) (x : t.Cpp) (strings : NStringMap)
    (doubles : NStringDoubleMap) :
    (Callable sessions cSession op →
      ((received sessions cSession op).map collectionsOf = some (collectionsOf op) ↔
        ∀ c ∈ collectionsOf op, c.Intact)) ∧
    ((NRtClientWrapper.call rtOp).run.map RtOp.collections = some rtOp.collections ↔
      ∀ c ∈ rtOp.collections, c.Intact) ∧
    ((t.roundTrip (some garbage) x).map t.collections = some (t.collections x) ↔
      ∀ c ∈ t.collections x, c.Intact) ∧
    (((∃ keys, NStringMap.getKeys strings (NStringMap.getSize strings).toNat = some keys ∧
        keys.length = (NStringMap.getSize strings).toNat) ↔ strings.size < 2 ^ 16) ∧
      (toCppNStringMap (some strings) = some strings ↔ PortableStringMap strings)) ∧
    ((∃ keys, NStringDoubleMap.getKeys doubles (NStringDoubleMap.getSize doubles).toNat = some keys ∧
        keys.length = (NStringDoubleMap.getSize doubles).toNat) ↔ doubles.size < 2 ^ 16) ∧
      (toCppNStringDoubleMap (some doubles) = some doubles ↔ PortableDoubleMap doubles) := by
  refine ⟨fun h => ?_, ?_, ?_, ⟨writeKeys_iff, readStringMap_iff⟩, writeKeys_iff, readDoubleMap_iff⟩
  · rw [received_collections h, Collection.mapM_pass_iff]
  · rw [transmitted_collections, Collection.mapM_pass_iff]
  · rw [CallbackType.roundTrip_collections, Collection.mapM_pass_iff]

theorem counts_survive_iff_getUsers :
    (received oneSession.sessions 16 (.getUsers someSession ["id", "other"] ["name"] [])).map
        collectionsOf =
      some [.array .texts ["id", "other"], .array .texts ["name"], .array .texts []] := by
  have hlive : Callable oneSession.sessions 16
      (.getUsers someSession ["id", "other"] ["name"] []) := by
    intro session hsession
    cases hsession
    rfl
  have hcounts := counts_survive_iff oneSession.sessions 16
    (.getUsers someSession ["id", "other"] ["name"] []) .createMatch ⟨"", by decide⟩ .groupList
    ⟨[], ""⟩ ∅ ∅
  have htexts : ∀ l : List String, l.length < 2 ^ 16 → AllNulFree l →
      (Collection.array .texts l).Intact := fun l hlength hfree => ⟨hlength, hfree⟩
  refine (hcounts.1 hlive).2 fun c hc => ?_
  simp only [collectionsOf, List.mem_cons, List.not_mem_nil, or_false] at hc
  obtain rfl | rfl | rfl := hc
  · exact htexts _ (by decide) (by decide)
  · exact htexts _ (by decide) (by decide)
  · exact htexts _ (by decide) (by decide)

/-- A map with `n` entries. -/
def entries (n : Nat) : NStringMap :=
  .ofList ((List.range n).map fun i => (String.ofList (List.replicate i 'a'), ""))

theorem size_entries (n : Nat) : (entries n).size = n := by
  have hdistinct : ((List.range n).map fun i => (String.ofList (List.replicate i 'a'), "")).Pairwise
      fun p q => ¬ compare p.1 q.1 = .eq := by
    rw [List.pairwise_map]
    refine List.nodup_range.imp fun {i j} hij he => hij ?_
    have hlist := String.ofList_inj.1 (compare_eq_iff_eq.1 he)
    simpa using congrArg List.length hlist
  rw [entries, Std.ExtTreeMap.size_ofList hdistinct, List.length_map, List.length_range]

/-- Of 65537 users one is followed, and the keys of 65537 entries are written into an array of
one. -/
theorem counts_not_survive :
    (NRtClientWrapper.call (.followUsers (List.replicate 65537 "id"))).run =
        some (.followUsers ["id"]) ∧ ["id"] ≠ List.replicate 65537 "id" ∧
      NStringMap.getSize (entries 65537) = 1 ∧ NStringMap.getKeys (entries 65537) 1 = none ∧
      toCppNStringMap (some (entries 65537)) ≠ some (entries 65537) := by
  have hsize := size_entries 65537
  refine ⟨?_, fun h => ?_, ?_, ?_, fun h => ?_⟩
  · have htexts : texts (cStrs (List.replicate 65537 "id")) = ["id"] := by
      rw [texts, cStrs, CArray.toList_ofList_take, List.length_replicate, List.take_replicate]
      rfl
    simp only [NRtClientWrapper.call, NRtClientCall.run, htexts]
  · have hlength := congrArg List.length h
    rw [List.length_replicate] at hlength
    cases hlength
  · rw [NStringMap.getSize, hsize]
    rfl
  · rw [NStringMap.getKeys, writeKeys, if_neg]
    rw [length_keyTexts, hsize]
    norm_num
  · have := (readStringMap_iff.1 h).2
    rw [hsize] at this
    revert this
    norm_num

end NakamaCpp.CApi
