import NakamaCpp.Lib.CInterop
import NakamaCpp.Rest.ReqError

/-!
# The data of client callbacks at the C interface

For each type of include/nakama-cpp/data its structure in C (include/nakama-c/data), the
`assign` of src/nakama-c/DataHelperC.cpp that fills the structure (`SNUser.assign`), and the
`assign` of include/nakama-cpp-c-wrapper/Impl/NDataHelperWrapperImpl.h that reads it back
into a new value (`NUser.assign`).  The two were written apart from each other.

    x.Portable  →  assign (assign x) = x

for every type but two: a device's `vars` have no field in C (`NAccount.assign_assign_iff`), and
the cursor of a list of storage objects is not assigned (`NStorageObjectList.assign_assign`).

An `enum class` is its `int`, as in C: a response may carry a number that has no enumerator.
A pointer and its count are one `CArray`.
-/

namespace NakamaCpp.CApi

open Rest CInterop

/-! ## Texts and maps -/

/-- `s.c_str()`. -/
abbrev cStr (s : String) : CStr := CStr.ofString s

/-- `::NStringMap`: null, or a map that `g_maps` keeps. -/
abbrev CStringMap := Option NStringMap

abbrev NStringDoubleMap := Map Float

abbrev CStringDoubleMap := Option NStringDoubleMap

/-- `map.empty() ? nullptr : saveNStringMap(map)`, and the same with doubles. -/
def saveMap {β : Type} (map : Map β) : Option (Map β) := if map.isEmpty then none else some map

/-- `toCppNStringMap`; a key without a value makes a `std::string` of null. -/
def toCppNStringMap (map : CStringMap) : Option NStringMap :=
  match map with
  | none => some ∅
  | some map => readMap (fun v => (cStr v).text) (fun _ => none) map

/-- `toCppNStringDoubleMap`; a key without a value is left out. -/
def toCppNStringDoubleMap (map : CStringDoubleMap) : Option NStringDoubleMap :=
  match map with
  | none => some ∅
  | some map => readMap id some map

def mapTexts (map : NStringMap) : List String := map.toList.flatMap fun p => [p.1, p.2]

def PortableStringMap (map : NStringMap) : Prop := AllNulFree (mapTexts map) ∧ map.size < 2 ^ 16

def PortableDoubleMap (map : NStringDoubleMap) : Prop := AllNulFree map.keys ∧ map.size < 2 ^ 16

theorem nulFree_entry {map : NStringMap} (h : AllNulFree (mapTexts map)) {k v : String}
    (hget : map[k]? = some v) : NulFree k ∧ NulFree v := by
  have hmem := Std.ExtTreeMap.mem_toList_iff_getElem?_eq_some.2 hget
  have hp := h.of_mem_flatMap hmem
  exact ⟨hp k List.mem_cons_self, hp v (List.mem_cons_of_mem _ List.mem_cons_self)⟩

theorem nulFree_key {map : NStringMap} (h : AllNulFree (mapTexts map)) {k : String}
    (hk : k ∈ map) : NulFree k := by
  obtain ⟨v, hv⟩ := Option.isSome_iff_exists.1 (Std.ExtTreeMap.mem_iff_isSome_getElem?.1 hk)
  exact (nulFree_entry h hv).1

theorem saveMap_cases {β : Type} (map : Map β) :
    map = ∅ ∧ saveMap map = none ∨ saveMap map = some map := by
  unfold saveMap
  split
  · next he => exact .inl ⟨Std.ExtTreeMap.isEmpty_iff.1 he, rfl⟩
  · exact .inr rfl

theorem toCppNStringMap_saveMap {map : NStringMap} (h : PortableStringMap map) :
    toCppNStringMap (saveMap map) = some map := by
  obtain ⟨ht, hs⟩ := h
  rcases saveMap_cases map with ⟨rfl, hsave⟩ | hsave
  · rfl
  · rw [hsave]
    apply readMap_eq _ (fun k hk => nulFree_key ht hk) _ hs
    intro k v hget
    exact CStr.text_ofString (nulFree_entry ht hget).2

theorem toCppNStringDoubleMap_saveMap {map : NStringDoubleMap} (h : PortableDoubleMap map) :
    toCppNStringDoubleMap (saveMap map) = some map := by
  obtain ⟨ht, hs⟩ := h
  rcases saveMap_cases map with ⟨rfl, hsave⟩ | hsave
  · rfl
  · rw [hsave]
    apply readMap_eq _ _ (fun _ _ _ => rfl) hs
    intro k hk
    exact ht k (Std.ExtTreeMap.mem_keys.2 hk)

/-! ## Errors -/

structure SNError where
  message : CStr
  code : Int32

/-- The numbers of the enumerators, the same in C. -/
def codeNumber : ErrorCode → Int32
  | .unknown => 0
  | .notFound => 1
  | .alreadyExists => 2
  | .invalidArgument => 3
  | .unauthenticated => 4
  | .permissionDenied => 5
  | .connectionError => -1
  | .internalError => -2
  | .cancelledByUser => -3

/-- The enumerator with the number. -/
def castErrorCode (code : Int32) : Option ErrorCode :=
  [.unknown, .notFound, .alreadyExists, .invalidArgument, .unauthenticated, .permissionDenied,
    .connectionError, .internalError, .cancelledByUser].find? (codeNumber · == code)

theorem castErrorCode_codeNumber (code : ErrorCode) :
    castErrorCode (codeNumber code) = some code := by
  cases code <;> rfl

def SNError.assign (error : NError) : SNError where
  message := cStr error.message
  code := codeNumber error.code

def assignNError (cError : SNError) : Option NError := do
  return { message := cError.message.text, code := ← castErrorCode cError.code }

def PortableNError (error : NError) : Prop := NulFree error.message

theorem assignNError_eq (error : NError) :
    assignNError (.assign error) = some { error with message := (cStr error.message).text } := by
  simp only [assignNError, SNError.assign, castErrorCode_codeNumber]
  rfl

theorem assignNError_assign_iff {error : NError} :
    assignNError (.assign error) = some error ↔ PortableNError error := by
  rw [assignNError_eq, Option.some.injEq, PortableNError, ← CStr.text_ofString_iff]
  constructor
  · intro h
    exact congrArg NError.message h
  · intro h
    rw [h]

theorem assignNError_assign {error : NError} (h : PortableNError error) :
    assignNError (.assign error) = some error := assignNError_assign_iff.2 h

/-! ## Users and accounts -/

structure NUser where
  (id username displayName avatarUrl lang location timeZone metadata facebookId : String)
  (googleId gameCenterId steamId : String)
  online : Bool
  edgeCount : Int32
  (createdAt updatedAt : NTimestamp)

structure SNUser where
  (id username displayName avatarUrl lang location timeZone metadata facebookId googleId : CStr)
  (gameCenterId steamId : CStr)
  online : Bool
  edgeCount : Int32
  (createdAt updatedAt : NTimestamp)

def SNUser.assign (user : NUser) : SNUser where
  id := cStr user.id
  username := cStr user.username
  displayName := cStr user.displayName
  avatarUrl := cStr user.avatarUrl
  lang := cStr user.lang
  location := cStr user.location
  timeZone := cStr user.timeZone
  metadata := cStr user.metadata
  facebookId := cStr user.facebookId
  googleId := cStr user.googleId
  gameCenterId := cStr user.gameCenterId
  steamId := cStr user.steamId
  online := user.online
  edgeCount := user.edgeCount
  createdAt := user.createdAt
  updatedAt := user.updatedAt

def NUser.assign (cUser : SNUser) : NUser where
  id := cUser.id.text
  username := cUser.username.text
  displayName := cUser.displayName.text
  avatarUrl := cUser.avatarUrl.text
  lang := cUser.lang.text
  location := cUser.location.text
  timeZone := cUser.timeZone.text
  metadata := cUser.metadata.text
  facebookId := cUser.facebookId.text
  googleId := cUser.googleId.text
  gameCenterId := cUser.gameCenterId.text
  steamId := cUser.steamId.text
  online := cUser.online
  edgeCount := cUser.edgeCount
  createdAt := cUser.createdAt
  updatedAt := cUser.updatedAt

def NUser.Portable (user : NUser) : Prop :=
  AllNulFree [user.id, user.username, user.displayName, user.avatarUrl, user.lang, user.location,
    user.timeZone, user.metadata, user.facebookId, user.googleId, user.gameCenterId, user.steamId]

theorem NUser.assign_assign_iff {user : NUser} :
    NUser.assign (.assign user) = user ↔ user.Portable := by
  cases user
  simp only [NUser.assign, SNUser.assign, NUser.mk.injEq,
    NUser.Portable, CStr.text_ofString_iff, allNulFree_cons, allNulFree_nil, and_true]

theorem NUser.assign_assign {user : NUser} (h : user.Portable) :
    NUser.assign (.assign user) = user :=
  NUser.assign_assign_iff.2 h

structure NAccountDevice where
  id : String
  vars : NStringMap := ∅

structure SNAccountDevice where
  id : CStr

def SNAccountDevice.assign (device : NAccountDevice) : SNAccountDevice where
  id := cStr device.id

def NAccountDevice.assign (cDevice : SNAccountDevice) : NAccountDevice where
  id := cDevice.id.text

def NAccountDevice.Portable (device : NAccountDevice) : Prop := NulFree device.id

theorem NAccountDevice.assign_assign {device : NAccountDevice} (h : device.Portable) :
    NAccountDevice.assign (.assign device) = { device with vars := ∅ } := by
  simp only [NAccountDevice.assign, SNAccountDevice.assign, CStr.text_ofString h]

theorem NAccountDevice.without_vars_iff {device : NAccountDevice} :
    { device with vars := ∅ } = device ↔ device.vars = ∅ := by
  constructor
  · intro he
    rw [← he]
  · intro he
    rw [← he]

structure NAccount where
  user : NUser
  (wallet email : String)
  devices : List NAccountDevice
  custom_id : String
  verifyTime : NTimestamp

structure SNAccount where
  user : SNUser
  (wallet email : CStr)
  devices : CArray SNAccountDevice
  custom_id : CStr
  verifyTime : NTimestamp

def SNAccount.assign (account : NAccount) : SNAccount where
  user := .assign account.user
  wallet := cStr account.wallet
  email := cStr account.email
  devices := .alloc SNAccountDevice.assign account.devices
  custom_id := cStr account.custom_id
  verifyTime := account.verifyTime

def NAccount.assign (cAccount : SNAccount) : NAccount where
  user := .assign cAccount.user
  wallet := cAccount.wallet.text
  email := cAccount.email.text
  devices := cAccount.devices.toList.map NAccountDevice.assign
  custom_id := cAccount.custom_id.text
  verifyTime := cAccount.verifyTime

def NAccount.Portable (account : NAccount) : Prop :=
  AllNulFree [account.wallet, account.email, account.custom_id] ∧ account.user.Portable ∧
  EachCounted NAccountDevice.Portable account.devices

theorem NAccount.assign_assign {account : NAccount} (h : account.Portable) :
    NAccount.assign (.assign account) =
      { account with devices := account.devices.map fun device => { device with vars := ∅ } } := by
  obtain ⟨ht, huser, hcount, hdevices⟩ := h
  simp only [allNulFree_cons] at ht
  have hback : (CArray.alloc SNAccountDevice.assign account.devices).toList.map
      NAccountDevice.assign = account.devices.map fun device => { device with vars := ∅ } := by
    rw [CArray.toList_alloc _ hcount, List.map_map]
    exact List.map_congr_left fun device hd => NAccountDevice.assign_assign (hdevices device hd)
  simp only [NAccount.assign, SNAccount.assign, CStr.text_ofString, ht, NUser.assign_assign huser,
    hback]

theorem NAccount.assign_assign_iff {account : NAccount} (h : account.Portable) :
    NAccount.assign (.assign account) = account ↔ ∀ device ∈ account.devices, device.vars = ∅ := by
  rw [NAccount.assign_assign h]
  have hdevices : account.devices.map (fun device => { device with vars := ∅ }) = account.devices ↔
      ∀ device ∈ account.devices, device.vars = ∅ := by
    conv_lhs => rhs; rw [← List.map_id account.devices]
    rw [List.map_inj_left]
    exact forall₂_congr fun device _ => NAccountDevice.without_vars_iff
  constructor
  · intro he
    exact hdevices.1 (congrArg NAccount.devices he)
  · intro he
    rw [hdevices.2 he]

structure NUsers where
  users : List NUser

structure SNUsers where
  users : CArray SNUser

def SNUsers.assign (users : NUsers) : SNUsers where
  users := .alloc SNUser.assign users.users

def NUsers.assign (cUsers : SNUsers) : NUsers where
  users := cUsers.users.toList.map NUser.assign

def NUsers.Portable (users : NUsers) : Prop := EachCounted NUser.Portable users.users

theorem NUsers.assign_assign {users : NUsers} (h : users.Portable) :
    NUsers.assign (.assign users) = users := by
  simp only [NUsers.assign, SNUsers.assign, h.map_toList_alloc fun _ => NUser.assign_assign]

structure NFriend where
  user : NUser
  state : Int32

structure SNFriend where
  user : SNUser
  state : Int32

def SNFriend.assign (aFriend : NFriend) : SNFriend where
  user := .assign aFriend.user
  state := aFriend.state

def NFriend.assign (cFriend : SNFriend) : NFriend where
  user := .assign cFriend.user
  state := cFriend.state

def NFriend.Portable (aFriend : NFriend) : Prop := aFriend.user.Portable

theorem NFriend.assign_assign_iff {aFriend : NFriend} :
    NFriend.assign (.assign aFriend) = aFriend ↔ aFriend.Portable := by
  cases aFriend
  simp only [NFriend.assign, SNFriend.assign, NFriend.mk.injEq, NFriend.Portable,
    NUser.assign_assign_iff, and_true]

theorem NFriend.assign_assign {aFriend : NFriend} (h : aFriend.Portable) :
    NFriend.assign (.assign aFriend) = aFriend :=
  NFriend.assign_assign_iff.2 h

structure NFriendList where
  friends : List NFriend
  cursor : String

structure SNFriendList where
  friends : CArray SNFriend
  cursor : CStr

def SNFriendList.assign (list : NFriendList) : SNFriendList where
  friends := .alloc SNFriend.assign list.friends
  cursor := cStr list.cursor

def NFriendList.assign (cList : SNFriendList) : NFriendList where
  friends := cList.friends.toList.map NFriend.assign
  cursor := cList.cursor.text

def NFriendList.Portable (list : NFriendList) : Prop :=
  NulFree list.cursor ∧ EachCounted NFriend.Portable list.friends

theorem NFriendList.assign_assign {list : NFriendList} (h : list.Portable) :
    NFriendList.assign (.assign list) = list := by
  obtain ⟨ht, hfriends⟩ := h
  simp only [NFriendList.assign, SNFriendList.assign, CStr.text_ofString ht,
    hfriends.map_toList_alloc fun _ => NFriend.assign_assign]

/-! ## Groups -/

structure NGroup where
  (id creatorId name description lang metadata avatarUrl : String)
  open_ : Bool
  (edgeCount maxCount : Int32)
  (createTime updateTime : NTimestamp)

structure SNGroup where
  (id creatorId name description lang metadata avatarUrl : CStr)
  open_ : Bool
  (edgeCount maxCount : Int32)
  (createTime updateTime : NTimestamp)

def SNGroup.assign (group : NGroup) : SNGroup where
  id := cStr group.id
  creatorId := cStr group.creatorId
  name := cStr group.name
  description := cStr group.description
  lang := cStr group.lang
  metadata := cStr group.metadata
  avatarUrl := cStr group.avatarUrl
  open_ := group.open_
  edgeCount := group.edgeCount
  maxCount := group.maxCount
  createTime := group.createTime
  updateTime := group.updateTime

def NGroup.assign (cGroup : SNGroup) : NGroup where
  id := cGroup.id.text
  creatorId := cGroup.creatorId.text
  name := cGroup.name.text
  description := cGroup.description.text
  lang := cGroup.lang.text
  metadata := cGroup.metadata.text
  avatarUrl := cGroup.avatarUrl.text
  open_ := cGroup.open_
  edgeCount := cGroup.edgeCount
  maxCount := cGroup.maxCount
  createTime := cGroup.createTime
  updateTime := cGroup.updateTime

def NGroup.Portable (group : NGroup) : Prop :=
  AllNulFree [group.id, group.creatorId, group.name, group.description, group.lang,
    group.metadata, group.avatarUrl]

theorem NGroup.assign_assign_iff {group : NGroup} :
    NGroup.assign (.assign group) = group ↔ group.Portable := by
  cases group
  simp only [NGroup.assign, SNGroup.assign, NGroup.mk.injEq,
    NGroup.Portable, CStr.text_ofString_iff, allNulFree_cons, allNulFree_nil, and_true]

theorem NGroup.assign_assign {group : NGroup} (h : group.Portable) :
    NGroup.assign (.assign group) = group :=
  NGroup.assign_assign_iff.2 h

structure NGroupUser where
  user : NUser
  state : Int32

structure SNGroupUser where
  user : SNUser
  state : Int32

def SNGroupUser.assign (groupUser : NGroupUser) : SNGroupUser where
  user := .assign groupUser.user
  state := groupUser.state

def NGroupUser.assign (cGroupUser : SNGroupUser) : NGroupUser where
  user := .assign cGroupUser.user
  state := cGroupUser.state

def NGroupUser.Portable (groupUser : NGroupUser) : Prop := groupUser.user.Portable

theorem NGroupUser.assign_assign_iff {groupUser : NGroupUser} :
    NGroupUser.assign (.assign groupUser) = groupUser ↔ groupUser.Portable := by
  cases groupUser
  simp only [NGroupUser.assign, SNGroupUser.assign, NGroupUser.mk.injEq, NGroupUser.Portable,
    NUser.assign_assign_iff, and_true]

theorem NGroupUser.assign_assign {groupUser : NGroupUser} (h : groupUser.Portable) :
    NGroupUser.assign (.assign groupUser) = groupUser :=
  NGroupUser.assign_assign_iff.2 h

structure NGroupUserList where
  groupUsers : List NGroupUser
  cursor : String

structure SNGroupUserList where
  groupUsers : CArray SNGroupUser
  cursor : CStr

def SNGroupUserList.assign (list : NGroupUserList) : SNGroupUserList where
  groupUsers := .alloc SNGroupUser.assign list.groupUsers
  cursor := cStr list.cursor

def NGroupUserList.assign (cList : SNGroupUserList) : NGroupUserList where
  groupUsers := cList.groupUsers.toList.map NGroupUser.assign
  cursor := cList.cursor.text

def NGroupUserList.Portable (list : NGroupUserList) : Prop :=
  NulFree list.cursor ∧ EachCounted NGroupUser.Portable list.groupUsers

theorem NGroupUserList.assign_assign {list : NGroupUserList} (h : list.Portable) :
    NGroupUserList.assign (.assign list) = list := by
  obtain ⟨ht, hgroupUsers⟩ := h
  simp only [NGroupUserList.assign, SNGroupUserList.assign, CStr.text_ofString ht,
    hgroupUsers.map_toList_alloc fun _ => NGroupUser.assign_assign]

structure NGroupList where
  groups : List NGroup
  cursor : String

structure SNGroupList where
  groups : CArray SNGroup
  cursor : CStr

def SNGroupList.assign (list : NGroupList) : SNGroupList where
  groups := .alloc SNGroup.assign list.groups
  cursor := cStr list.cursor

def NGroupList.assign (cList : SNGroupList) : NGroupList where
  groups := cList.groups.toList.map NGroup.assign
  cursor := cList.cursor.text

def NGroupList.Portable (list : NGroupList) : Prop :=
  NulFree list.cursor ∧ EachCounted NGroup.Portable list.groups

theorem NGroupList.assign_assign {list : NGroupList} (h : list.Portable) :
    NGroupList.assign (.assign list) = list := by
  obtain ⟨ht, hgroups⟩ := h
  simp only [NGroupList.assign, SNGroupList.assign, CStr.text_ofString ht,
    hgroups.map_toList_alloc fun _ => NGroup.assign_assign]

structure NUserGroup where
  group : NGroup
  state : Int32

structure SNUserGroup where
  group : SNGroup
  state : Int32

def SNUserGroup.assign (userGroup : NUserGroup) : SNUserGroup where
  group := .assign userGroup.group
  state := userGroup.state

def NUserGroup.assign (cUserGroup : SNUserGroup) : NUserGroup where
  group := .assign cUserGroup.group
  state := cUserGroup.state

def NUserGroup.Portable (userGroup : NUserGroup) : Prop := userGroup.group.Portable

theorem NUserGroup.assign_assign_iff {userGroup : NUserGroup} :
    NUserGroup.assign (.assign userGroup) = userGroup ↔ userGroup.Portable := by
  cases userGroup
  simp only [NUserGroup.assign, SNUserGroup.assign, NUserGroup.mk.injEq, NUserGroup.Portable,
    NGroup.assign_assign_iff, and_true]

theorem NUserGroup.assign_assign {userGroup : NUserGroup} (h : userGroup.Portable) :
    NUserGroup.assign (.assign userGroup) = userGroup :=
  NUserGroup.assign_assign_iff.2 h

structure NUserGroupList where
  userGroups : List NUserGroup
  cursor : String

structure SNUserGroupList where
  userGroups : CArray SNUserGroup
  cursor : CStr

def SNUserGroupList.assign (list : NUserGroupList) : SNUserGroupList where
  userGroups := .alloc SNUserGroup.assign list.userGroups
  cursor := cStr list.cursor

def NUserGroupList.assign (cList : SNUserGroupList) : NUserGroupList where
  userGroups := cList.userGroups.toList.map NUserGroup.assign
  cursor := cList.cursor.text

def NUserGroupList.Portable (list : NUserGroupList) : Prop :=
  NulFree list.cursor ∧ EachCounted NUserGroup.Portable list.userGroups

theorem NUserGroupList.assign_assign {list : NUserGroupList} (h : list.Portable) :
    NUserGroupList.assign (.assign list) = list := by
  obtain ⟨ht, huserGroups⟩ := h
  simp only [NUserGroupList.assign, SNUserGroupList.assign, CStr.text_ofString ht,
    huserGroups.map_toList_alloc fun _ => NUserGroup.assign_assign]

/-! ## Leaderboards and tournaments -/

structure NLeaderboardRecord where
  (leaderboardId ownerId username : String)
  (score subscore : Int64)
  numScore : Int32
  maxNumScore : UInt32
  metadata : String
  (createTime updateTime expiryTime : NTimestamp)
  rank : Int64

structure SNLeaderboardRecord where
  (leaderboardId ownerId username : CStr)
  (score subscore : Int64)
  numScore : Int32
  maxNumScore : UInt32
  metadata : CStr
  (createTime updateTime expiryTime : NTimestamp)
  rank : Int64

def SNLeaderboardRecord.assign (record : NLeaderboardRecord) : SNLeaderboardRecord where
  leaderboardId := cStr record.leaderboardId
  ownerId := cStr record.ownerId
  username := cStr record.username
  score := record.score
  subscore := record.subscore
  numScore := record.numScore
  maxNumScore := record.maxNumScore
  metadata := cStr record.metadata
  createTime := record.createTime
  updateTime := record.updateTime
  expiryTime := record.expiryTime
  rank := record.rank

def NLeaderboardRecord.assign (cRecord : SNLeaderboardRecord) : NLeaderboardRecord where
  leaderboardId := cRecord.leaderboardId.text
  ownerId := cRecord.ownerId.text
  username := cRecord.username.text
  score := cRecord.score
  subscore := cRecord.subscore
  numScore := cRecord.numScore
  maxNumScore := cRecord.maxNumScore
  metadata := cRecord.metadata.text
  createTime := cRecord.createTime
  updateTime := cRecord.updateTime
  expiryTime := cRecord.expiryTime
  rank := cRecord.rank

def NLeaderboardRecord.Portable (record : NLeaderboardRecord) : Prop :=
  AllNulFree [record.leaderboardId, record.ownerId, record.username, record.metadata]

theorem NLeaderboardRecord.assign_assign_iff {record : NLeaderboardRecord} :
    NLeaderboardRecord.assign (.assign record) = record ↔ record.Portable := by
  cases record
  simp only [NLeaderboardRecord.assign, SNLeaderboardRecord.assign, NLeaderboardRecord.mk.injEq,
    NLeaderboardRecord.Portable, CStr.text_ofString_iff, allNulFree_cons, allNulFree_nil, and_true, true_and]

theorem NLeaderboardRecord.assign_assign {record : NLeaderboardRecord} (h : record.Portable) :
    NLeaderboardRecord.assign (.assign record) = record :=
  NLeaderboardRecord.assign_assign_iff.2 h

structure NLeaderboardRecordList where
  (records ownerRecords : List NLeaderboardRecord)
  (nextCursor prevCursor : String)

structure SNLeaderboardRecordList where
  (records ownerRecords : CArray SNLeaderboardRecord)
  (nextCursor prevCursor : CStr)

def SNLeaderboardRecordList.assign (list : NLeaderboardRecordList) : SNLeaderboardRecordList where
  records := .alloc SNLeaderboardRecord.assign list.records
  ownerRecords := .alloc SNLeaderboardRecord.assign list.ownerRecords
  nextCursor := cStr list.nextCursor
  prevCursor := cStr list.prevCursor

def NLeaderboardRecordList.assign (cList : SNLeaderboardRecordList) : NLeaderboardRecordList where
  records := cList.records.toList.map NLeaderboardRecord.assign
  ownerRecords := cList.ownerRecords.toList.map NLeaderboardRecord.assign
  nextCursor := cList.nextCursor.text
  prevCursor := cList.prevCursor.text

def NLeaderboardRecordList.Portable (list : NLeaderboardRecordList) : Prop :=
  AllNulFree [list.nextCursor, list.prevCursor] ∧
  EachCounted NLeaderboardRecord.Portable list.records ∧
  EachCounted NLeaderboardRecord.Portable list.ownerRecords

theorem NLeaderboardRecordList.assign_assign {list : NLeaderboardRecordList} (h : list.Portable) :
    NLeaderboardRecordList.assign (.assign list) = list := by
  obtain ⟨ht, hrecords, hownerRecords⟩ := h
  simp only [allNulFree_cons] at ht
  simp only [NLeaderboardRecordList.assign, SNLeaderboardRecordList.assign, CStr.text_ofString,
    ht, hrecords.map_toList_alloc fun _ => NLeaderboardRecord.assign_assign,
    hownerRecords.map_toList_alloc fun _ => NLeaderboardRecord.assign_assign]

structure NTournamentRecordList where
  (records ownerRecords : List NLeaderboardRecord)
  (nextCursor prevCursor : String)

structure SNTournamentRecordList where
  (records ownerRecords : CArray SNLeaderboardRecord)
  (nextCursor prevCursor : CStr)

def SNTournamentRecordList.assign (list : NTournamentRecordList) : SNTournamentRecordList where
  records := .alloc SNLeaderboardRecord.assign list.records
  ownerRecords := .alloc SNLeaderboardRecord.assign list.ownerRecords
  nextCursor := cStr list.nextCursor
  prevCursor := cStr list.prevCursor

def NTournamentRecordList.assign (cList : SNTournamentRecordList) : NTournamentRecordList where
  records := cList.records.toList.map NLeaderboardRecord.assign
  ownerRecords := cList.ownerRecords.toList.map NLeaderboardRecord.assign
  nextCursor := cList.nextCursor.text
  prevCursor := cList.prevCursor.text

def NTournamentRecordList.Portable (list : NTournamentRecordList) : Prop :=
  AllNulFree [list.nextCursor, list.prevCursor] ∧
  EachCounted NLeaderboardRecord.Portable list.records ∧
  EachCounted NLeaderboardRecord.Portable list.ownerRecords

theorem NTournamentRecordList.assign_assign {list : NTournamentRecordList} (h : list.Portable) :
    NTournamentRecordList.assign (.assign list) = list := by
  obtain ⟨ht, hrecords, hownerRecords⟩ := h
  simp only [allNulFree_cons] at ht
  simp only [NTournamentRecordList.assign, SNTournamentRecordList.assign, CStr.text_ofString, ht,
    hrecords.map_toList_alloc fun _ => NLeaderboardRecord.assign_assign,
    hownerRecords.map_toList_alloc fun _ => NLeaderboardRecord.assign_assign]

structure NTournament where
  (id title description : String)
  (category sortOrder size maxSize maxNumScore : UInt32)
  canEnter : Bool
  (createTime startTime endTime : NTimestamp)
  (endActive nextReset duration startActive : UInt32)
  metadata : String

structure SNTournament where
  (id title description : CStr)
  (category sortOrder size maxSize maxNumScore : UInt32)
  canEnter : Bool
  (createTime startTime endTime : NTimestamp)
  (endActive nextReset duration startActive : UInt32)
  metadata : CStr

def SNTournament.assign (t : NTournament) : SNTournament where
  id := cStr t.id
  title := cStr t.title
  description := cStr t.description
  category := t.category
  sortOrder := t.sortOrder
  size := t.size
  maxSize := t.maxSize
  maxNumScore := t.maxNumScore
  canEnter := t.canEnter
  createTime := t.createTime
  startTime := t.startTime
  endTime := t.endTime
  endActive := t.endActive
  nextReset := t.nextReset
  duration := t.duration
  startActive := t.startActive
  metadata := cStr t.metadata

def NTournament.assign (cT : SNTournament) : NTournament where
  id := cT.id.text
  title := cT.title.text
  description := cT.description.text
  category := cT.category
  sortOrder := cT.sortOrder
  size := cT.size
  maxSize := cT.maxSize
  maxNumScore := cT.maxNumScore
  canEnter := cT.canEnter
  createTime := cT.createTime
  startTime := cT.startTime
  endTime := cT.endTime
  endActive := cT.endActive
  nextReset := cT.nextReset
  duration := cT.duration
  startActive := cT.startActive
  metadata := cT.metadata.text

def NTournament.Portable (t : NTournament) : Prop :=
  AllNulFree [t.id, t.title, t.description, t.metadata]

theorem NTournament.assign_assign_iff {t : NTournament} :
    NTournament.assign (.assign t) = t ↔ t.Portable := by
  cases t
  simp only [NTournament.assign, SNTournament.assign, NTournament.mk.injEq,
    NTournament.Portable, CStr.text_ofString_iff, allNulFree_cons, allNulFree_nil, and_true, true_and]

theorem NTournament.assign_assign {t : NTournament} (h : t.Portable) :
    NTournament.assign (.assign t) = t :=
  NTournament.assign_assign_iff.2 h

structure NTournamentList where
  tournaments : List NTournament
  cursor : String

structure SNTournamentList where
  tournaments : CArray SNTournament
  cursor : CStr

def SNTournamentList.assign (list : NTournamentList) : SNTournamentList where
  tournaments := .alloc SNTournament.assign list.tournaments
  cursor := cStr list.cursor

def NTournamentList.assign (cList : SNTournamentList) : NTournamentList where
  tournaments := cList.tournaments.toList.map NTournament.assign
  cursor := cList.cursor.text

def NTournamentList.Portable (list : NTournamentList) : Prop :=
  NulFree list.cursor ∧ EachCounted NTournament.Portable list.tournaments

theorem NTournamentList.assign_assign {list : NTournamentList} (h : list.Portable) :
    NTournamentList.assign (.assign list) = list := by
  obtain ⟨ht, htournaments⟩ := h
  simp only [NTournamentList.assign, SNTournamentList.assign, CStr.text_ofString ht,
    htournaments.map_toList_alloc fun _ => NTournament.assign_assign]

/-! ## Matches -/

structure NUserPresence where
  (userId sessionId username : String)
  persistence : Bool
  status : String
deriving Inhabited

structure SNUserPresence where
  (userId sessionId username : CStr)
  persistence : Bool
  status : CStr

def SNUserPresence.assign (presence : NUserPresence) : SNUserPresence where
  userId := cStr presence.userId
  sessionId := cStr presence.sessionId
  username := cStr presence.username
  persistence := presence.persistence
  status := cStr presence.status

def NUserPresence.assign (cPresence : SNUserPresence) : NUserPresence where
  userId := cPresence.userId.text
  sessionId := cPresence.sessionId.text
  username := cPresence.username.text
  persistence := cPresence.persistence
  status := cPresence.status.text

def NUserPresence.Portable (presence : NUserPresence) : Prop :=
  AllNulFree [presence.userId, presence.sessionId, presence.username, presence.status]

theorem NUserPresence.assign_assign_iff {presence : NUserPresence} :
    NUserPresence.assign (.assign presence) = presence ↔ presence.Portable := by
  cases presence
  simp only [NUserPresence.assign, SNUserPresence.assign, NUserPresence.mk.injEq,
    NUserPresence.Portable, CStr.text_ofString_iff, allNulFree_cons, allNulFree_nil, and_true, true_and]

theorem NUserPresence.assign_assign {presence : NUserPresence} (h : presence.Portable) :
    NUserPresence.assign (.assign presence) = presence :=
  NUserPresence.assign_assign_iff.2 h

structure NMatch where
  matchId : String
  authoritative : Bool
  label : String
  size : Int32
  presences : List NUserPresence
  self : NUserPresence

structure SNMatch where
  matchId : CStr
  authoritative : Bool
  label : CStr
  size : Int32
  presences : CArray SNUserPresence
  self : SNUserPresence

def SNMatch.assign (game : NMatch) : SNMatch where
  matchId := cStr game.matchId
  authoritative := game.authoritative
  label := cStr game.label
  size := game.size
  presences := .alloc SNUserPresence.assign game.presences
  self := .assign game.self

def NMatch.assign (cGame : SNMatch) : NMatch where
  matchId := cGame.matchId.text
  authoritative := cGame.authoritative
  label := cGame.label.text
  size := cGame.size
  presences := cGame.presences.toList.map NUserPresence.assign
  self := .assign cGame.self

def NMatch.Portable (game : NMatch) : Prop :=
  AllNulFree [game.matchId, game.label] ∧ EachCounted NUserPresence.Portable game.presences ∧
  game.self.Portable

theorem NMatch.assign_assign_iff {game : NMatch} :
    NMatch.assign (.assign game) = game ↔ game.Portable := by
  cases game
  simp only [NMatch.assign, SNMatch.assign, NMatch.mk.injEq, NMatch.Portable,
    CStr.text_ofString_iff, CArray.map_toList_alloc_iff, NUserPresence.assign_assign_iff,
    EachCounted, allNulFree_cons, allNulFree_nil, and_true, true_and, and_assoc]

theorem NMatch.assign_assign {game : NMatch} (h : game.Portable) :
    NMatch.assign (.assign game) = game :=
  NMatch.assign_assign_iff.2 h

structure NMatchList where
  matches_ : List NMatch

structure SNMatchList where
  matches_ : CArray SNMatch

def SNMatchList.assign (list : NMatchList) : SNMatchList where
  matches_ := .alloc SNMatch.assign list.matches_

def NMatchList.assign (cList : SNMatchList) : NMatchList where
  matches_ := cList.matches_.toList.map NMatch.assign

def NMatchList.Portable (list : NMatchList) : Prop := EachCounted NMatch.Portable list.matches_

theorem NMatchList.assign_assign {list : NMatchList} (h : list.Portable) :
    NMatchList.assign (.assign list) = list := by
  simp only [NMatchList.assign, SNMatchList.assign,
    h.map_toList_alloc fun _ => NMatch.assign_assign]

/-! ## Remote calls and storage -/

structure NRpc where
  (id payload httpKey : String)

structure SNRpc where
  (id payload httpKey : CStr)

def SNRpc.assign (rpc : NRpc) : SNRpc where
  id := cStr rpc.id
  payload := cStr rpc.payload
  httpKey := cStr rpc.httpKey

def NRpc.assign (cRpc : SNRpc) : NRpc where
  id := cRpc.id.text
  payload := cRpc.payload.text
  httpKey := cRpc.httpKey.text

def NRpc.Portable (rpc : NRpc) : Prop :=
  AllNulFree [rpc.id, rpc.payload, rpc.httpKey]

theorem NRpc.assign_assign {rpc : NRpc} (h : rpc.Portable) : NRpc.assign (.assign rpc) = rpc := by
  simp only [NRpc.Portable, allNulFree_cons] at h
  simp only [NRpc.assign, SNRpc.assign, CStr.text_ofString, h]

structure NStorageObject where
  (collection key userId value version : String)
  (permissionRead permissionWrite : Int32)
  (createTime updateTime : NTimestamp)

structure SNStorageObject where
  (collection key userId value version : CStr)
  (permissionRead permissionWrite : Int32)
  (createTime updateTime : NTimestamp)

def SNStorageObject.assign (object : NStorageObject) : SNStorageObject where
  collection := cStr object.collection
  key := cStr object.key
  userId := cStr object.userId
  value := cStr object.value
  version := cStr object.version
  permissionRead := object.permissionRead
  permissionWrite := object.permissionWrite
  createTime := object.createTime
  updateTime := object.updateTime

def NStorageObject.assign (cObject : SNStorageObject) : NStorageObject where
  collection := cObject.collection.text
  key := cObject.key.text
  userId := cObject.userId.text
  value := cObject.value.text
  version := cObject.version.text
  permissionRead := cObject.permissionRead
  permissionWrite := cObject.permissionWrite
  createTime := cObject.createTime
  updateTime := cObject.updateTime

def NStorageObject.Portable (object : NStorageObject) : Prop :=
  AllNulFree [object.collection, object.key, object.userId, object.value, object.version]

theorem NStorageObject.assign_assign_iff {object : NStorageObject} :
    NStorageObject.assign (.assign object) = object ↔ object.Portable := by
  cases object
  simp only [NStorageObject.assign, SNStorageObject.assign, NStorageObject.mk.injEq,
    NStorageObject.Portable, CStr.text_ofString_iff, allNulFree_cons, allNulFree_nil, and_true]

theorem NStorageObject.assign_assign {object : NStorageObject} (h : object.Portable) :
    NStorageObject.assign (.assign object) = object :=
  NStorageObject.assign_assign_iff.2 h

structure NStorageObjectAck where
  (collection key version userId : String)

structure SNStorageObjectAck where
  (collection key version userId : CStr)

def SNStorageObjectAck.assign (ack : NStorageObjectAck) : SNStorageObjectAck where
  collection := cStr ack.collection
  key := cStr ack.key
  version := cStr ack.version
  userId := cStr ack.userId

def NStorageObjectAck.assign (cAck : SNStorageObjectAck) : NStorageObjectAck where
  collection := cAck.collection.text
  key := cAck.key.text
  version := cAck.version.text
  userId := cAck.userId.text

def NStorageObjectAck.Portable (ack : NStorageObjectAck) : Prop :=
  AllNulFree [ack.collection, ack.key, ack.version, ack.userId]

theorem NStorageObjectAck.assign_assign_iff {ack : NStorageObjectAck} :
    NStorageObjectAck.assign (.assign ack) = ack ↔ ack.Portable := by
  cases ack
  simp only [NStorageObjectAck.assign, SNStorageObjectAck.assign, NStorageObjectAck.mk.injEq,
    NStorageObjectAck.Portable, CStr.text_ofString_iff, allNulFree_cons, allNulFree_nil, and_true]

theorem NStorageObjectAck.assign_assign {ack : NStorageObjectAck} (h : ack.Portable) :
    NStorageObjectAck.assign (.assign ack) = ack :=
  NStorageObjectAck.assign_assign_iff.2 h

structure NStorageObjectList where
  objects : List NStorageObject
  cursor : String

/-- The cursor points to no text while it is not initialized, unless by chance. -/
structure SNStorageObjectList where
  objects : CArray SNStorageObject
  cursor : Option CStr

/-- `assign`, into a structure whose cursor holds what was in its memory. -/
def SNStorageObjectList.assign (garbage : Option CStr) (list : NStorageObjectList) :
    SNStorageObjectList where
  objects := .alloc SNStorageObject.assign list.objects
  cursor := garbage

def NStorageObjectList.assign (cList : SNStorageObjectList) : Option NStorageObjectList := do
  return {
    objects := cList.objects.toList.map NStorageObject.assign
    cursor := (← cList.cursor).text }

def NStorageObjectList.Portable (list : NStorageObjectList) : Prop :=
  NulFree list.cursor ∧ EachCounted NStorageObject.Portable list.objects

theorem NStorageObjectList.assign_assign {list : NStorageObjectList} (h : list.Portable)
    (garbage : Option CStr) :
    NStorageObjectList.assign (.assign garbage list) =
      garbage.map fun text => { list with cursor := text.text } := by
  have hobjects := h.2.map_toList_alloc fun _ => NStorageObject.assign_assign
  simp only [NStorageObjectList.assign, SNStorageObjectList.assign, hobjects]
  cases garbage <;> rfl

/-! ## Notifications and messages -/

structure NNotification where
  (id subject content : String)
  code : Int32
  senderId : String
  createTime : NTimestamp
  persistent : Bool
deriving Inhabited

structure SNNotification where
  (id subject content : CStr)
  code : Int32
  senderId : CStr
  createTime : NTimestamp
  persistent : Bool

def SNNotification.assign (n : NNotification) : SNNotification where
  id := cStr n.id
  subject := cStr n.subject
  content := cStr n.content
  code := n.code
  senderId := cStr n.senderId
  createTime := n.createTime
  persistent := n.persistent

def NNotification.assign (cN : SNNotification) : NNotification where
  id := cN.id.text
  subject := cN.subject.text
  content := cN.content.text
  code := cN.code
  senderId := cN.senderId.text
  createTime := cN.createTime
  persistent := cN.persistent

def NNotification.Portable (n : NNotification) : Prop :=
  AllNulFree [n.id, n.subject, n.content, n.senderId]

theorem NNotification.assign_assign_iff {n : NNotification} :
    NNotification.assign (.assign n) = n ↔ n.Portable := by
  cases n
  simp only [NNotification.assign, SNNotification.assign, NNotification.mk.injEq,
    NNotification.Portable, CStr.text_ofString_iff, allNulFree_cons, allNulFree_nil, and_true, true_and]

theorem NNotification.assign_assign {n : NNotification} (h : n.Portable) :
    NNotification.assign (.assign n) = n :=
  NNotification.assign_assign_iff.2 h

structure NNotificationList where
  notifications : List NNotification
  cacheableCursor : String
deriving Inhabited

structure SNNotificationList where
  notifications : CArray SNNotification
  cacheableCursor : CStr

def SNNotificationList.assign (list : NNotificationList) : SNNotificationList where
  notifications := .alloc SNNotification.assign list.notifications
  cacheableCursor := cStr list.cacheableCursor

def NNotificationList.assign (cList : SNNotificationList) : NNotificationList where
  notifications := cList.notifications.toList.map NNotification.assign
  cacheableCursor := cList.cacheableCursor.text

def NNotificationList.Portable (list : NNotificationList) : Prop :=
  NulFree list.cacheableCursor ∧ EachCounted NNotification.Portable list.notifications

theorem NNotificationList.assign_assign {list : NNotificationList} (h : list.Portable) :
    NNotificationList.assign (.assign list) = list := by
  obtain ⟨ht, hnotifications⟩ := h
  simp only [NNotificationList.assign, SNNotificationList.assign, CStr.text_ofString ht,
    hnotifications.map_toList_alloc fun _ => NNotification.assign_assign]

structure NChannelMessage where
  (channelId messageId : String)
  code : Int32
  (senderId username content : String)
  (createTime updateTime : NTimestamp)
  persistent : Bool
  (roomName groupId userIdOne userIdTwo : String)
deriving Inhabited

structure SNChannelMessage where
  (channelId messageId : CStr)
  code : Int32
  (senderId username content : CStr)
  (createTime updateTime : NTimestamp)
  persistent : Bool
  (roomName groupId userIdOne userIdTwo : CStr)

def SNChannelMessage.assign (msg : NChannelMessage) : SNChannelMessage where
  channelId := cStr msg.channelId
  messageId := cStr msg.messageId
  code := msg.code
  senderId := cStr msg.senderId
  username := cStr msg.username
  content := cStr msg.content
  createTime := msg.createTime
  updateTime := msg.updateTime
  persistent := msg.persistent
  roomName := cStr msg.roomName
  groupId := cStr msg.groupId
  userIdOne := cStr msg.userIdOne
  userIdTwo := cStr msg.userIdTwo

def NChannelMessage.assign (cMsg : SNChannelMessage) : NChannelMessage where
  channelId := cMsg.channelId.text
  messageId := cMsg.messageId.text
  code := cMsg.code
  senderId := cMsg.senderId.text
  username := cMsg.username.text
  content := cMsg.content.text
  createTime := cMsg.createTime
  updateTime := cMsg.updateTime
  persistent := cMsg.persistent
  roomName := cMsg.roomName.text
  groupId := cMsg.groupId.text
  userIdOne := cMsg.userIdOne.text
  userIdTwo := cMsg.userIdTwo.text

def NChannelMessage.Portable (msg : NChannelMessage) : Prop :=
  AllNulFree [msg.channelId, msg.messageId, msg.senderId, msg.username, msg.content, msg.roomName,
    msg.groupId, msg.userIdOne, msg.userIdTwo]

theorem NChannelMessage.assign_assign_iff {msg : NChannelMessage} :
    NChannelMessage.assign (.assign msg) = msg ↔ msg.Portable := by
  cases msg
  simp only [NChannelMessage.assign, SNChannelMessage.assign, NChannelMessage.mk.injEq,
    NChannelMessage.Portable, CStr.text_ofString_iff, allNulFree_cons, allNulFree_nil, and_true, true_and]

theorem NChannelMessage.assign_assign {msg : NChannelMessage} (h : msg.Portable) :
    NChannelMessage.assign (.assign msg) = msg :=
  NChannelMessage.assign_assign_iff.2 h

structure NChannelMessageList where
  messages : List NChannelMessage
  (nextCursor prevCursor : String)

structure SNChannelMessageList where
  messages : CArray SNChannelMessage
  (nextCursor prevCursor : CStr)

def SNChannelMessageList.assign (list : NChannelMessageList) : SNChannelMessageList where
  messages := .alloc SNChannelMessage.assign list.messages
  nextCursor := cStr list.nextCursor
  prevCursor := cStr list.prevCursor

def NChannelMessageList.assign (cList : SNChannelMessageList) : NChannelMessageList where
  messages := cList.messages.toList.map NChannelMessage.assign
  nextCursor := cList.nextCursor.text
  prevCursor := cList.prevCursor.text

def NChannelMessageList.Portable (list : NChannelMessageList) : Prop :=
  AllNulFree [list.nextCursor, list.prevCursor] ∧
  EachCounted NChannelMessage.Portable list.messages

theorem NChannelMessageList.assign_assign {list : NChannelMessageList} (h : list.Portable) :
    NChannelMessageList.assign (.assign list) = list := by
  obtain ⟨ht, hmessages⟩ := h
  simp only [allNulFree_cons] at ht
  simp only [NChannelMessageList.assign, SNChannelMessageList.assign, CStr.text_ofString, ht,
    hmessages.map_toList_alloc fun _ => NChannelMessage.assign_assign]

end NakamaCpp.CApi
