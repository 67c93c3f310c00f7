import NakamaCpp.Api.Messages
import NakamaCpp.CApi.RtUserData
import NakamaCpp.Realtime.RtSend

/-!
# From messages to data

The `assign` functions of src/DataHelper.cpp: the data that a callback is given for a message of
the API.  A sub-message that is absent is read as its default.  An `assign` that copies its
argument, and those of repeated fields and maps, are written out where they are used.
-/

namespace NakamaCpp

open CApi Realtime Std
open Rest (NTimestamp)
open CInterop (Map)

namespace Api

/-! ## nakama.api -/

/-- Seconds as milliseconds; the nanoseconds are not read. -/
def Timestamp.assign (data : Timestamp) : NTimestamp := data.seconds.toUInt64 * 1000

def assignTime (data : Option Timestamp) : NTimestamp := (data.getD {}).assign

def User.assign (data : User) : NUser where
  id := data.id
  username := data.username
  displayName := data.displayName
  avatarUrl := data.avatarUrl
  lang := data.langTag
  location := data.location
  timeZone := data.timezone
  metadata := data.metadata
  facebookId := data.facebookId
  googleId := data.googleId
  gameCenterId := data.gamecenterId
  steamId := data.steamId
  online := data.online
  edgeCount := data.edgeCount
  createdAt := assignTime data.createTime
  updatedAt := assignTime data.updateTime

/-- The `vars` of a device stay empty. -/
def AccountDevice.assign (data : AccountDevice) : NAccountDevice where
  id := data.id

def Account.assign (data : Account) : NAccount where
  user := (data.user.getD {}).assign
  wallet := data.wallet
  email := data.email
  devices := data.devices.map AccountDevice.assign
  custom_id := data.customId
  verifyTime := assignTime data.verifyTime

def Users.assign (data : Users) : NUsers where
  users := data.users.map User.assign

def Friend.assign (data : Friend) : NFriend where
  user := (data.user.getD {}).assign
  state := data.state.getD 0

def FriendList.assign (data : FriendList) : NFriendList where
  friends := data.friends.map Friend.assign
  cursor := data.cursor

def Group.assign (data : Group) : NGroup where
  id := data.id
  creatorId := data.creatorId
  name := data.name
  description := data.description
  lang := data.langTag
  metadata := data.metadata
  avatarUrl := data.avatarUrl
  open_ := data.open_.getD false
  edgeCount := data.edgeCount
  maxCount := data.maxCount
  createTime := assignTime data.createTime
  updateTime := assignTime data.updateTime

def GroupList.assign (data : GroupList) : NGroupList where
  groups := data.groups.map Group.assign
  cursor := data.cursor

def GroupUser.assign (data : GroupUser) : NGroupUser where
  user := (data.user.getD {}).assign
  state := data.state.getD 0

def GroupUserList.assign (data : GroupUserList) : NGroupUserList where
  groupUsers := data.groupUsers.map GroupUser.assign
  cursor := data.cursor

def UserGroup.assign (data : UserGroup) : NUserGroup where
  group := (data.group.getD {}).assign
  state := data.state.getD 0

def UserGroupList.assign (data : UserGroupList) : NUserGroupList where
  userGroups := data.userGroups.map UserGroup.assign
  cursor := data.cursor

def LeaderboardRecord.assign (data : LeaderboardRecord) : NLeaderboardRecord where
  leaderboardId := data.leaderboardId
  ownerId := data.ownerId
  username := data.username.getD ""
  score := data.score
  subscore := data.subscore
  numScore := data.numScore
  maxNumScore := data.maxNumScore
  metadata := data.metadata
  createTime := assignTime data.createTime
  updateTime := assignTime data.updateTime
  expiryTime := assignTime data.expiryTime
  rank := data.rank

def LeaderboardRecordList.assign (data : LeaderboardRecordList) : NLeaderboardRecordList where
  records := data.records.map LeaderboardRecord.assign
  ownerRecords := data.ownerRecords.map LeaderboardRecord.assign
  nextCursor := data.nextCursor
  prevCursor := data.prevCursor

def Tournament.assign (data : Tournament) : NTournament where
  id := data.id
  title := data.title
  description := data.description
  category := data.category
  sortOrder := data.sortOrder
  size := data.size
  maxSize := data.maxSize
  maxNumScore := data.maxNumScore
  canEnter := data.canEnter
  createTime := assignTime data.createTime
  startTime := assignTime data.startTime
  endTime := assignTime data.endTime
  endActive := data.endActive
  nextReset := data.nextReset
  duration := data.duration
  startActive := data.startActive
  metadata := data.metadata

def TournamentList.assign (data : TournamentList) : NTournamentList where
  tournaments := data.tournaments.map Tournament.assign
  cursor := data.cursor

def TournamentRecordList.assign (data : TournamentRecordList) : NTournamentRecordList where
  records := data.records.map LeaderboardRecord.assign
  ownerRecords := data.ownerRecords.map LeaderboardRecord.assign
  nextCursor := data.nextCursor
  prevCursor := data.prevCursor

/-- The presences stay empty. -/
def Match.assign (data : Match) : NMatch where
  matchId := data.matchId
  size := data.size
  authoritative := data.authoritative
  label := data.label.getD ""
  presences := []
  self := ⟨"", "", "", false, ""⟩

def MatchList.assign (data : MatchList) : NMatchList where
  matches_ := data.matches_.map Match.assign

def Notification.assign (data : Notification) : NNotification where
  id := data.id
  subject := data.subject
  content := data.content
  code := data.code
  senderId := data.senderId
  createTime := assignTime data.createTime
  persistent := data.persistent

def NotificationList.assign (data : NotificationList) : NNotificationList where
  notifications := data.notifications.map Notification.assign
  cacheableCursor := data.cacheableCursor

def ChannelMessage.assign (data : ChannelMessage) : NChannelMessage where
  channelId := data.channelId
  code := data.code.getD 0
  content := data.content
  createTime := assignTime data.createTime
  messageId := data.messageId
  persistent := data.persistent.getD false
  senderId := data.senderId
  updateTime := assignTime data.updateTime
  username := data.username
  roomName := data.roomName
  groupId := data.groupId
  userIdOne := data.userIdOne
  userIdTwo := data.userIdTwo

def ChannelMessageList.assign (data : ChannelMessageList) : NChannelMessageList where
  messages := data.messages.map ChannelMessage.assign
  prevCursor := data.prevCursor
  nextCursor := data.nextCursor

def StorageObject.assign (data : StorageObject) : NStorageObject where
  collection := data.collection
  createTime := assignTime data.createTime
  key := data.key
  permissionRead := data.permissionRead
  permissionWrite := data.permissionWrite
  updateTime := assignTime data.updateTime
  userId := data.userId
  value := data.value
  version := data.version

def StorageObjectList.assign (data : StorageObjectList) : NStorageObjectList where
  objects := data.objects.map StorageObject.assign
  cursor := data.cursor

def StorageObjectAck.assign (data : StorageObjectAck) : NStorageObjectAck where
  collection := data.collection
  key := data.key
  userId := data.userId
  version := data.version

def Rpc.assign (data : Rpc) : NRpc where
  id := data.id
  payload := data.payload
  httpKey := data.httpKey

end Api

namespace RtApi

/-! ## nakama.realtime -/

open Api (assignTime)

def assignPresences (data : List UserPresence) : List NUserPresence := data.map assignPresence

/-- A presence in a field of its own. -/
def assignSelf (data : Option UserPresence) : NUserPresence :=
  assignPresence (data.getD ⟨"", "", "", false, none⟩)

/-- The doubles of a map, of which a message has the bits. -/
def assignDoubles (data : Map UInt64) : NStringDoubleMap := data.map fun _ bits => Float.ofBits bits

def ChannelMessageAck.assign (data : ChannelMessageAck) : NChannelMessageAck where
  channelId := data.channelId
  code := data.code.getD 0
  createTime := assignTime data.createTime
  messageId := data.messageId
  persistent := data.persistent.getD false
  updateTime := assignTime data.updateTime
  username := data.username
  roomName := data.roomName
  groupId := data.groupId
  userIdOne := data.userIdOne
  userIdTwo := data.userIdTwo

def Channel.assign (data : Channel) : NChannel where
  id := data.id
  self := assignSelf data.self
  presences := assignPresences data.presences
  roomName := data.roomName
  groupId := data.groupId
  userIdOne := data.userIdOne
  userIdTwo := data.userIdTwo

def ChannelPresenceEvent.assign (data : ChannelPresenceEvent) : NChannelPresenceEvent where
  channelId := data.channelId
  joins := assignPresences data.joins
  leaves := assignPresences data.leaves
  roomName := data.roomName
  groupId := data.groupId
  userIdOne := data.userIdOne
  userIdTwo := data.userIdTwo

def Match.assign (data : Match) : NMatch where
  matchId := data.matchId
  size := data.size
  authoritative := data.authoritative
  label := data.label.getD ""
  self := assignSelf data.self
  presences := assignPresences data.presences

/-- `reliable` is not read. -/
def MatchData.assign (data : MatchData) : NMatchData where
  matchId := data.matchId
  opCode := data.opCode
  presence := assignSelf data.presence
  data := data.data

def MatchmakerTicket.assign (data : MatchmakerTicket) : NMatchmakerTicket where
  ticket := data.ticket

def MatchPresenceEvent.assign (data : MatchPresenceEvent) : NMatchPresenceEvent where
  matchId := data.matchId
  joins := assignPresences data.joins
  leaves := assignPresences data.leaves

def MatchmakerUser.assign (data : MatchmakerUser) : NMatchmakerUser where
  presence := assignSelf data.presence
  stringProperties := data.stringProperties
  numericProperties := assignDoubles data.numericProperties

def MatchmakerMatched.assign (data : MatchmakerMatched) : NMatchmakerMatched where
  matchId := data.matchId
  ticket := data.ticket
  token := data.token
  self := (data.self.getD {}).assign
  users := data.users.map MatchmakerUser.assign

/-- There is no cursor in a push. -/
def Notifications.assign (data : Notifications) : NNotificationList where
  notifications := data.notifications.map Api.Notification.assign
  cacheableCursor := ""

def Status.assign (data : Status) : NStatus where
  presences := assignPresences data.presences

def StatusPresenceEvent.assign (data : StatusPresenceEvent) : NStatusPresenceEvent where
  joins := assignPresences data.joins
  leaves := assignPresences data.leaves

def Error.assign (data : Error) : NRtError where
  message := data.message
  code := data.code
  context := data.context

def Stream.assign (data : Stream) : NStream where
  label := data.label
  mode := data.mode
  subcontext := data.subcontext
  subject := data.subject

/-- `reliable` is not read. -/
def StreamData.assign (data : StreamData) : NStreamData where
  sender := assignSelf data.sender
  data := data.data
  stream := (data.stream.getD {}).assign

def StreamPresenceEvent.assign (data : StreamPresenceEvent) : NStreamPresenceEvent where
  stream := (data.stream.getD {}).assign
  joins := assignPresences data.joins
  leaves := assignPresences data.leaves

end RtApi

end NakamaCpp
