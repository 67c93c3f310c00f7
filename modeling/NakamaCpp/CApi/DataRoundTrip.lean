import NakamaCpp.CApi.RtData

/-!
# Data through the C interface and back

Every type that a callback of the C interface is given, and the way of its values: the lower
layer fills the C structure, the wrapper's callback reads it into a new C++ value.

    t.Portable x  →  ((∀ garbage, t.roundTrip garbage x = some x) ↔ t.Kept x)     (lossless_iff)
-/

namespace NakamaCpp.CApi

open Rest (NError)
open Realtime CInterop

/-! ## The types -/

/-- What a callback of NClientC.cpp or NRtClientC.cpp is given; of `storageObjects` and
`storageObjectAcks` an array and its count. -/
inductive CallbackType
  | error | account | users | friendList | group | groupList | groupUserList | userGroupList
  | leaderboardRecord | leaderboardRecordList | tournamentList | tournamentRecordList
  | matchList | notificationList | channelMessageList | storageObjectList | storageObjects
  | storageObjectAcks | rpc | rtError | disconnectInfo | channel | channelMessageAck | match_
  | matchmakerTicket | status | channelMessage | channelPresenceEvent | matchData
  | matchPresenceEvent | matchmakerMatched | statusPresenceEvent | streamData
  | streamPresenceEvent
deriving DecidableEq, Repr

namespace CallbackType

/-- The C++ type. -/
abbrev Cpp : CallbackType → Type
  | .error => NError
  | .account => NAccount
  | .users => NUsers
  | .friendList => NFriendList
  | .group => NGroup
  | .groupList => NGroupList
  | .groupUserList => NGroupUserList
  | .userGroupList => NUserGroupList
  | .leaderboardRecord => NLeaderboardRecord
  | .leaderboardRecordList => NLeaderboardRecordList
  | .tournamentList => NTournamentList
  | .tournamentRecordList => NTournamentRecordList
  | .matchList => NMatchList
  | .notificationList => NNotificationList
  | .channelMessageList => NChannelMessageList
  | .storageObjectList => NStorageObjectList
  | .storageObjects => List NStorageObject
  | .storageObjectAcks => List NStorageObjectAck
  | .rpc => NRpc
  | .rtError => NRtError
  | .disconnectInfo => NRtClientDisconnectInfo
  | .channel => NChannel
  | .channelMessageAck => NChannelMessageAck
  | .match_ => NMatch
  | .matchmakerTicket => NMatchmakerTicket
  | .status => NStatus
  | .channelMessage => NChannelMessage
  | .channelPresenceEvent => NChannelPresenceEvent
  | .matchData => NMatchData
  | .matchPresenceEvent => NMatchPresenceEvent
  | .matchmakerMatched => NMatchmakerMatched
  | .statusPresenceEvent => NStatusPresenceEvent
  | .streamData => NStreamData
  | .streamPresenceEvent => NStreamPresenceEvent

/-- `assign` to C and `assign` back into a new value, where a cursor that is not assigned holds
`garbage`; `none` when the way back reads what nobody wrote. -/
def roundTrip (garbage : Option CStr) : (t : CallbackType) → t.Cpp → Option t.Cpp
  | .error, x => assignNError (.assign x)
  | .account, x => some (NAccount.assign (.assign x))
  | .users, x => some (NUsers.assign (.assign x))
  | .friendList, x => some (NFriendList.assign (.assign x))
  | .group, x => some (NGroup.assign (.assign x))
  | .groupList, x => some (NGroupList.assign (.assign x))
  | .groupUserList, x => some (NGroupUserList.assign (.assign x))
  | .userGroupList, x => some (NUserGroupList.assign (.assign x))
  | .leaderboardRecord, x => some (NLeaderboardRecord.assign (.assign x))
  | .leaderboardRecordList, x => some (NLeaderboardRecordList.assign (.assign x))
  | .tournamentList, x => some (NTournamentList.assign (.assign x))
  | .tournamentRecordList, x => some (NTournamentRecordList.assign (.assign x))
  | .matchList, x => some (NMatchList.assign (.assign x))
  | .notificationList, x => some (NNotificationList.assign (.assign x))
  | .channelMessageList, x => some (NChannelMessageList.assign (.assign x))
  | .storageObjectList, x => NStorageObjectList.assign (.assign garbage x)
  | .storageObjects, x =>
    some ((CArray.alloc SNStorageObject.assign x).toList.map NStorageObject.assign)
  | .storageObjectAcks, x =>
    some ((CArray.alloc SNStorageObjectAck.assign x).toList.map NStorageObjectAck.assign)
  | .rpc, x => some (NRpc.assign (.assign x))
  | .rtError, x => assignNRtError (.assign x)
  | .disconnectInfo, x => some (assignNRtClientDisconnectInfo (.assign x))
  | .channel, x => some (NChannel.assign (.assign x))
  | .channelMessageAck, x => some (NChannelMessageAck.assign (.assign x))
  | .match_, x => some (NMatch.assign (.assign x))
  | .matchmakerTicket, x => some (NMatchmakerTicket.assign (.assign x))
  | .status, x => some (NStatus.assign (.assign x))
  | .channelMessage, x => some (NChannelMessage.assign (.assign x))
  | .channelPresenceEvent, x => some (NChannelPresenceEvent.assign (.assign x))
  | .matchData, x => some (NMatchData.assign (.assign x))
  | .matchPresenceEvent, x => some (NMatchPresenceEvent.assign (.assign x))
  | .matchmakerMatched, x => NMatchmakerMatched.assign (.assign x)
  | .statusPresenceEvent, x => some (NStatusPresenceEvent.assign (.assign x))
  | .streamData, x => some (NStreamData.assign (.assign x))
  | .streamPresenceEvent, x => some (NStreamPresenceEvent.assign (.assign x))

/-- No text has a NUL, and no list or map has more than 65535 elements. -/
def Portable : (t : CallbackType) → t.Cpp → Prop
  | .error, x => PortableNError x
  | .account, x => NAccount.Portable x
  | .users, x => NUsers.Portable x
  | .friendList, x => NFriendList.Portable x
  | .group, x => NGroup.Portable x
  | .groupList, x => NGroupList.Portable x
  | .groupUserList, x => NGroupUserList.Portable x
  | .userGroupList, x => NUserGroupList.Portable x
  | .leaderboardRecord, x => NLeaderboardRecord.Portable x
  | .leaderboardRecordList, x => NLeaderboardRecordList.Portable x
  | .tournamentList, x => NTournamentList.Portable x
  | .tournamentRecordList, x => NTournamentRecordList.Portable x
  | .matchList, x => NMatchList.Portable x
  | .notificationList, x => NNotificationList.Portable x
  | .channelMessageList, x => NChannelMessageList.Portable x
  | .storageObjectList, x => NStorageObjectList.Portable x
  | .storageObjects, x => EachCounted NStorageObject.Portable x
  | .storageObjectAcks, x => EachCounted NStorageObjectAck.Portable x
  | .rpc, x => NRpc.Portable x
  | .rtError, x => PortableNRtError x
  | .disconnectInfo, x => NulFree x.reason
  | .channel, x => NChannel.Portable x
  | .channelMessageAck, x => NChannelMessageAck.Portable x
  | .match_, x => NMatch.Portable x
  | .matchmakerTicket, x => NMatchmakerTicket.Portable x
  | .status, x => NStatus.Portable x
  | .channelMessage, x => NChannelMessage.Portable x
  | .channelPresenceEvent, x => NChannelPresenceEvent.Portable x
  | .matchData, x => NMatchData.Portable x
  | .matchPresenceEvent, x => NMatchPresenceEvent.Portable x
  | .matchmakerMatched, x => NMatchmakerMatched.Portable x
  | .statusPresenceEvent, x => NStatusPresenceEvent.Portable x
  | .streamData, x => NStreamData.Portable x
  | .streamPresenceEvent, x => NStreamPresenceEvent.Portable x

/-- The value has nothing that has no place in C. -/
def Kept : (t : CallbackType) → t.Cpp → Prop
  | .account, x => ∀ device ∈ x.devices, device.vars = ∅
  | .storageObjectList, _ => False
  | .matchData, x => x.data.size < 2 ^ 32
  | _, _ => True

theorem always {P : Option CStr → Prop} (h : ∀ garbage, P garbage) :
    (∀ garbage, P garbage) ↔ True :=
  iff_true_intro h

theorem storageObjectList_not_kept {list : NStorageObjectList} :
    ¬ ∀ garbage, roundTrip garbage .storageObjectList list = some list := by
  intro h
  cases h none

/-- **Lossless.** -/
theorem lossless_iff {t : CallbackType} {x : t.Cpp} (h : t.Portable x) :
    (∀ garbage, t.roundTrip garbage x = some x) ↔ t.Kept x := by
  cases t with
  | account =>
    show (∀ _, some (NAccount.assign (.assign x)) = some x) ↔ _
    rw [forall_const, Option.some.injEq]
    exact NAccount.assign_assign_iff h
  | matchData =>
    show (∀ _, some (NMatchData.assign (.assign x)) = some x) ↔ _
    rw [forall_const, Option.some.injEq]
    exact NMatchData.assign_assign_iff h
  | storageObjectList => exact iff_of_false storageObjectList_not_kept not_false
  | error => exact always fun _ => assignNError_assign h
  | users => exact always fun _ => congrArg some (NUsers.assign_assign h)
  | friendList => exact always fun _ => congrArg some (NFriendList.assign_assign h)
  | group => exact always fun _ => congrArg some (NGroup.assign_assign h)
  | groupList => exact always fun _ => congrArg some (NGroupList.assign_assign h)
  | groupUserList => exact always fun _ => congrArg some (NGroupUserList.assign_assign h)
  | userGroupList => exact always fun _ => congrArg some (NUserGroupList.assign_assign h)
  | leaderboardRecord => exact always fun _ => congrArg some (NLeaderboardRecord.assign_assign h)
  | leaderboardRecordList =>
    exact always fun _ => congrArg some (NLeaderboardRecordList.assign_assign h)
  | tournamentList => exact always fun _ => congrArg some (NTournamentList.assign_assign h)
  | tournamentRecordList =>
    exact always fun _ => congrArg some (NTournamentRecordList.assign_assign h)
  | matchList => exact always fun _ => congrArg some (NMatchList.assign_assign h)
  | notificationList => exact always fun _ => congrArg some (NNotificationList.assign_assign h)
  | channelMessageList => exact always fun _ => congrArg some (NChannelMessageList.assign_assign h)
  | storageObjects =>
    exact always fun _ => congrArg some (h.map_toList_alloc fun _ => NStorageObject.assign_assign)
  | storageObjectAcks =>
    exact always fun _ => congrArg some (h.map_toList_alloc fun _ => NStorageObjectAck.assign_assign)
  | rpc => exact always fun _ => congrArg some (NRpc.assign_assign h)
  | rtError => exact always fun _ => assignNRtError_assign h
  | disconnectInfo =>
    exact always fun _ => congrArg some (assignNRtClientDisconnectInfo_assign h)
  | channel => exact always fun _ => congrArg some (NChannel.assign_assign h)
  | channelMessageAck => exact always fun _ => congrArg some (NChannelMessageAck.assign_assign h)
  | match_ => exact always fun _ => congrArg some (NMatch.assign_assign h)
  | matchmakerTicket => exact always fun _ => congrArg some (NMatchmakerTicket.assign_assign h)
  | status => exact always fun _ => congrArg some (NStatus.assign_assign h)
  | channelMessage => exact always fun _ => congrArg some (NChannelMessage.assign_assign h)
  | channelPresenceEvent =>
    exact always fun _ => congrArg some (NChannelPresenceEvent.assign_assign h)
  | matchPresenceEvent => exact always fun _ => congrArg some (NMatchPresenceEvent.assign_assign h)
  | matchmakerMatched => exact always fun _ => NMatchmakerMatched.assign_assign h
  | statusPresenceEvent =>
    exact always fun _ => congrArg some (NStatusPresenceEvent.assign_assign h)
  | streamData => exact always fun _ => congrArg some (NStreamData.assign_assign h)
  | streamPresenceEvent =>
    exact always fun _ => congrArg some (NStreamPresenceEvent.assign_assign h)

def someGroup : NGroup :=
  ⟨"group", "creator", "name", "description", "en", "\x7b\x7d", "", true, 3, 100, 1, 2⟩

theorem lossless_iff_groupList :
    Portable .groupList ⟨[someGroup], "cursor"⟩ ∧
      ∀ garbage, roundTrip garbage .groupList ⟨[someGroup], "cursor"⟩ =
        some ⟨[someGroup], "cursor"⟩ := by
  have hgroup : someGroup.Portable := by
    unfold NGroup.Portable
    decide
  have h : Portable .groupList ⟨[someGroup], "cursor"⟩ :=
    ⟨by decide, by decide, List.forall_mem_singleton.2 hgroup⟩
  exact ⟨h, (lossless_iff h).2 trivial⟩

def someUser : NUser :=
  ⟨"user", "name", "", "", "en", "", "", "\x7b\x7d", "", "", "", "", false, 0, 0, 0⟩

/-- An account with one device, for which a variable is set. -/
def someAccount : NAccount :=
  ⟨someUser, "\x7b\x7d", "", [⟨"device", .ofList [("os", "linux")]⟩], "", 0⟩

/-- The variables of a device do not come back; of a list of storage objects nothing need come
back, as its cursor is read without having been written. -/
theorem not_lossless :
    (Portable .account someAccount ∧
      roundTrip none .account someAccount ≠ some someAccount) ∧
    (Portable .storageObjectList ⟨[], "next"⟩ ∧
      roundTrip none .storageObjectList ⟨[], "next"⟩ = none) := by
  have huser : someUser.Portable := by
    unfold NUser.Portable
    decide
  have hdevice : EachCounted NAccountDevice.Portable someAccount.devices := by
    refine ⟨by decide, List.forall_mem_singleton.2 ?_⟩
    unfold NAccountDevice.Portable
    decide
  have haccount : someAccount.Portable := ⟨by decide, huser, hdevice⟩
  refine ⟨⟨haccount, fun h => ?_⟩, ⟨by decide, by decide, ?_⟩, rfl⟩
  · have hvars := (NAccount.assign_assign_iff haccount).1 (Option.some.inj h)
    have hempty := congrArg Std.ExtTreeMap.size (hvars _ List.mem_cons_self)
    revert hempty
    decide
  · intro object hobject
    cases hobject

end CallbackType

end NakamaCpp.CApi
