import NakamaCpp.CApi.RtWrapper

/-!
# Messages of the APIs

The messages of src/api/github.com/heroiclabs/nakama-common/api/api.pb.h that a server answers
with and those of rtapi/realtime.pb.h, field by field as their accessors give them, and the
`Envelope`, which holds one of the latter.  A message in a field may be absent, and reads as its
default then; of the wrappers of google.protobuf only the value is kept, and of a double its bits.
-/

namespace NakamaCpp.Api

open Realtime (NStringMap)

/-! ## google.protobuf -/

structure Timestamp where
  seconds : Int64 := 0
  nanos : Int32 := 0

/-! ## nakama.api -/

structure User where
  (id username displayName avatarUrl langTag location timezone metadata facebookId : String := "")
  (googleId gamecenterId steamId : String := "")
  online : Bool := false
  edgeCount : Int32 := 0
  (createTime updateTime : Option Timestamp := none)

structure AccountDevice where
  id : String := ""
  vars : NStringMap := ∅

structure Account where
  user : Option User := none
  (wallet email : String := "")
  devices : List AccountDevice := []
  customId : String := ""
  verifyTime : Option Timestamp := none

structure Users where
  users : List User := []

structure Friend where
  user : Option User := none
  state : Option Int32 := none

structure FriendList where
  friends : List Friend := []
  cursor : String := ""

structure Group where
  (id creatorId name description langTag metadata avatarUrl : String := "")
  open_ : Option Bool := none
  (edgeCount maxCount : Int32 := 0)
  (createTime updateTime : Option Timestamp := none)

structure GroupList where
  groups : List Group := []
  cursor : String := ""

structure GroupUser where
  user : Option User := none
  state : Option Int32 := none

structure GroupUserList where
  groupUsers : List GroupUser := []
  cursor : String := ""

structure UserGroup where
  group : Option Group := none
  state : Option Int32 := none

structure UserGroupList where
  userGroups : List UserGroup := []
  cursor : String := ""

structure LeaderboardRecord where
  (leaderboardId ownerId : String := "")
  username : Option String := none
  (score subscore : Int64 := 0)
  numScore : Int32 := 0
  metadata : String := ""
  (createTime updateTime expiryTime : Option Timestamp := none)
  rank : Int64 := 0
  maxNumScore : UInt32 := 0

structure LeaderboardRecordList where
  (records ownerRecords : List LeaderboardRecord := [])
  (nextCursor prevCursor : String := "")

structure Tournament where
  (id title description : String := "")
  (category sortOrder size maxSize maxNumScore : UInt32 := 0)
  canEnter : Bool := false
  (endActive nextReset : UInt32 := 0)
  metadata : String := ""
  (createTime startTime endTime : Option Timestamp := none)
  (duration startActive : UInt32 := 0)

structure TournamentList where
  tournaments : List Tournament := []
  cursor : String := ""

structure TournamentRecordList where
  (records ownerRecords : List LeaderboardRecord := [])
  (nextCursor prevCursor : String := "")

structure Match where
  matchId : String := ""
  authoritative : Bool := false
  label : Option String := none
  size : Int32 := 0

structure MatchList where
  matches_ : List Match := []

structure Notification where
  (id subject content : String := "")
  code : Int32 := 0
  senderId : String := ""
  createTime : Option Timestamp := none
  persistent : Bool := false

structure NotificationList where
  notifications : List Notification := []
  cacheableCursor : String := ""

structure ChannelMessage where
  (channelId messageId : String := "")
  code : Option Int32 := none
  (senderId username content : String := "")
  (createTime updateTime : Option Timestamp := none)
  persistent : Option Bool := none
  (roomName groupId userIdOne userIdTwo : String := "")

structure ChannelMessageList where
  messages : List ChannelMessage := []
  (nextCursor prevCursor : String := "")

structure StorageObject where
  (collection key userId value version : String := "")
  (permissionRead permissionWrite : Int32 := 0)
  (createTime updateTime : Option Timestamp := none)

structure StorageObjects where
  objects : List StorageObject := []

structure StorageObjectList where
  objects : List StorageObject := []
  cursor : String := ""

structure StorageObjectAck where
  (collection key version userId : String := "")

structure StorageObjectAcks where
  acks : List StorageObjectAck := []

structure Rpc where
  (id payload httpKey : String := "")

structure Session where
  created : Bool := false
  token : String := ""

end NakamaCpp.Api

namespace NakamaCpp.RtApi

open Api
open Realtime (NBytes NStringMap MessageCase)
open CApi (UserPresence)
open CInterop (Map)

/-! ## nakama.realtime -/

structure Channel where
  id : String := ""
  presences : List UserPresence := []
  self : Option UserPresence := none
  (roomName groupId userIdOne userIdTwo : String := "")

structure ChannelJoin where
  target : String := ""
  type : Int32 := 0
  (persistence hidden : Option Bool := none)

structure ChannelLeave where
  channelId : String := ""

structure ChannelMessageAck where
  (channelId messageId : String := "")
  code : Option Int32 := none
  username : String := ""
  (createTime updateTime : Option Timestamp := none)
  persistent : Option Bool := none
  (roomName groupId userIdOne userIdTwo : String := "")

structure ChannelMessageSend where
  (channelId content : String := "")

structure ChannelMessageUpdate where
  (channelId messageId content : String := "")

structure ChannelMessageRemove where
  (channelId messageId : String := "")

structure ChannelPresenceEvent where
  channelId : String := ""
  (joins leaves : List UserPresence := [])
  (roomName groupId userIdOne userIdTwo : String := "")

structure Error where
  code : Int32 := 0
  message : String := ""
  context : NStringMap := ∅

structure Match where
  matchId : String := ""
  authoritative : Bool := false
  label : Option String := none
  size : Int32 := 0
  presences : List UserPresence := []
  self : Option UserPresence := none

structure MatchCreate where

structure MatchData where
  matchId : String := ""
  presence : Option UserPresence := none
  opCode : Int64 := 0
  data : NBytes := ByteArray.empty
  reliable : Bool := false

structure MatchDataSend where
  matchId : String := ""
  opCode : Int64 := 0
  data : NBytes := ByteArray.empty
  presences : List UserPresence := []
  reliable : Bool := false

/-- `MatchJoin::IdCase`. -/
inductive IdCase
  | matchId | token | notSet
deriving DecidableEq

/-- What the members of the oneof `id` hold. -/
def IdCase.Id : IdCase → Type
  | .matchId | .token => String
  | .notSet => Unit

instance : Subsingleton (IdCase.Id .notSet) := inferInstanceAs (Subsingleton Unit)

namespace IdCase

end IdCase

structure MatchJoin where
  id : (k : IdCase) × k.Id := ⟨.notSet, ()⟩
  metadata : NStringMap := ∅

structure MatchLeave where
  matchId : String := ""

structure MatchPresenceEvent where
  matchId : String := ""
  (joins leaves : List UserPresence := [])

structure MatchmakerAdd where
  (minCount maxCount : Int32 := 0)
  query : String := ""
  stringProperties : NStringMap := ∅
  numericProperties : Map UInt64 := ∅

structure MatchmakerUser where
  presence : Option UserPresence := none
  stringProperties : NStringMap := ∅
  numericProperties : Map UInt64 := ∅

structure MatchmakerMatched where
  (ticket matchId token : String := "")
  users : List MatchmakerUser := []
  self : Option MatchmakerUser := none

structure MatchmakerRemove where
  ticket : String := ""

structure MatchmakerTicket where
  ticket : String := ""

structure Notifications where
  notifications : List Notification := []

structure Status where
  presences : List UserPresence := []

structure StatusFollow where
  (userIds usernames : List String := [])

structure StatusPresenceEvent where
  (joins leaves : List UserPresence := [])

structure StatusUnfollow where
  userIds : List String := []

structure StatusUpdate where
  status : Option String := none

structure Stream where
  mode : Int32 := 0
  (subject subcontext label : String := "")

structure StreamData where
  stream : Option Stream := none
  sender : Option UserPresence := none
  data : String := ""
  reliable : Bool := false

structure StreamPresenceEvent where
  stream : Option Stream := none
  (joins leaves : List UserPresence := [])

structure Ping where

structure Pong where

/-! ## The envelope -/

/-- The type of each member of the oneof `message`. -/
def Message : MessageCase → Type
  | .channel => Channel
  | .channelJoin => ChannelJoin
  | .channelLeave => ChannelLeave
  | .channelMessage => ChannelMessage
  | .channelMessageAck => ChannelMessageAck
  | .channelMessageSend => ChannelMessageSend
  | .channelMessageUpdate => ChannelMessageUpdate
  | .channelMessageRemove => ChannelMessageRemove
  | .channelPresenceEvent => ChannelPresenceEvent
  | .error => Error
  | .match_ => Match
  | .matchCreate => MatchCreate
  | .matchData => MatchData
  | .matchDataSend => MatchDataSend
  | .matchJoin => MatchJoin
  | .matchLeave => MatchLeave
  | .matchPresenceEvent => MatchPresenceEvent
  | .matchmakerAdd => MatchmakerAdd
  | .matchmakerMatched => MatchmakerMatched
  | .matchmakerRemove => MatchmakerRemove
  | .matchmakerTicket => MatchmakerTicket
  | .notifications => Notifications
  | .rpc => Rpc
  | .status => Status
  | .statusFollow => StatusFollow
  | .statusPresenceEvent => StatusPresenceEvent
  | .statusUnfollow => StatusUnfollow
  | .statusUpdate => StatusUpdate
  | .streamData => StreamData
  | .streamPresenceEvent => StreamPresenceEvent
  | .ping => Ping
  | .pong => Pong
  | .notSet => Unit

instance : Subsingleton (Message .notSet) := inferInstanceAs (Subsingleton Unit)

/-- The default instance of each type. -/
def Message.default : (k : MessageCase) → Message k
  | .channel => ({} : Channel)
  | .channelJoin => ({} : ChannelJoin)
  | .channelLeave => ({} : ChannelLeave)
  | .channelMessage => ({} : ChannelMessage)
  | .channelMessageAck => ({} : ChannelMessageAck)
  | .channelMessageSend => ({} : ChannelMessageSend)
  | .channelMessageUpdate => ({} : ChannelMessageUpdate)
  | .channelMessageRemove => ({} : ChannelMessageRemove)
  | .channelPresenceEvent => ({} : ChannelPresenceEvent)
  | .error => ({} : Error)
  | .match_ => ({} : Match)
  | .matchCreate => ({} : MatchCreate)
  | .matchData => ({} : MatchData)
  | .matchDataSend => ({} : MatchDataSend)
  | .matchJoin => ({} : MatchJoin)
  | .matchLeave => ({} : MatchLeave)
  | .matchPresenceEvent => ({} : MatchPresenceEvent)
  | .matchmakerAdd => ({} : MatchmakerAdd)
  | .matchmakerMatched => ({} : MatchmakerMatched)
  | .matchmakerRemove => ({} : MatchmakerRemove)
  | .matchmakerTicket => ({} : MatchmakerTicket)
  | .notifications => ({} : Notifications)
  | .rpc => ({} : Rpc)
  | .status => ({} : Status)
  | .statusFollow => ({} : StatusFollow)
  | .statusPresenceEvent => ({} : StatusPresenceEvent)
  | .statusUnfollow => ({} : StatusUnfollow)
  | .statusUpdate => ({} : StatusUpdate)
  | .streamData => ({} : StreamData)
  | .streamPresenceEvent => ({} : StreamPresenceEvent)
  | .ping => ({} : Ping)
  | .pong => ({} : Pong)
  | .notSet => ()

structure Envelope where
  cid : String := ""
  message : (k : MessageCase) × Message k := ⟨.notSet, ()⟩

end NakamaCpp.RtApi
