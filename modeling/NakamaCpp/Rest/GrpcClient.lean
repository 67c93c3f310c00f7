import NakamaCpp.Rest.ClientOp
import NakamaCpp.Rest.ApiGrpc

/-!
# The gRPC client: the message of each operation

Model of the part of src/GrpcClient.cpp between `createReqContext` and the call of
the stub: for each operation the RPC, the authorization in the metadata, and the
request message as its setters leave it.  A setter under a condition is `setOpt`; the
loops over ids, vars and objects are one `set` with what they add.
-/

namespace NakamaCpp.Rest

open Transcode

/-- An RPC with its request, as it is given to the stub. -/
structure Call where
  rpc : Rpc
  authorization : String
  request : Message

/-- `setSessionAuth`, of the gRPC client. -/
def NSession.metadata (session : NSession) : String := "Bearer " ++ session.authToken

def stringField (s : String) : Value := .scalar (.string s)

def stringsField (ss : List String) : Value := .repeated (ss.map Scalar.string)

def stringValue (s : String) : Value := .wrapper (some (.string s))

def boolValue (b : Bool) : Value := .wrapper (some (.bool b))

def int32Value (n : Int32) : Value := .wrapper (some (.int32 n))

def uint32Value (n : UInt32) : Value := .wrapper (some (.uint32 n))

/-- `(*account->mutable_vars())[p.first] = p.second` for all vars. -/
def varsField (vars : NStringMap) : Value := .stringMap (StringMap.ofEntries vars.toList)

namespace GrpcClient

/-! ## Accounts -/

def accountDevice (id : String) : Message :=
  (Message.new ApiGrpc.accountDevice).set "id" (stringField id)

def accountEmail (email password : String) : Message :=
  ((Message.new ApiGrpc.accountEmail).set "email" (stringField email)).set "password"
    (stringField password)

def accountFacebook (token : String) : Message :=
  (Message.new ApiGrpc.accountFacebook).set "token" (stringField token)

def accountGoogle (token : String) : Message :=
  (Message.new ApiGrpc.accountGoogle).set "token" (stringField token)

/-- `set_timestamp_seconds` converts a `uint64_t` to an `int64`. -/
def accountGameCenter (player : GameCenterCredentials) : Message :=
  ((((((Message.new ApiGrpc.accountGameCenter).set "player_id" (stringField player.playerId)).set
    "bundle_id" (stringField player.bundleId)).set
    "timestamp_seconds" (.scalar (.int64 player.timestampSeconds.toInt64))).set
    "salt" (stringField player.salt)).set
    "signature" (stringField player.signature)).set
    "public_key_url" (stringField player.publicKeyUrl)

def accountCustom (id : String) : Message :=
  (Message.new ApiGrpc.accountCustom).set "id" (stringField id)

def accountSteam (token : String) : Message :=
  (Message.new ApiGrpc.accountSteam).set "token" (stringField token)

/-- A request with an account, before its other fields are set. -/
def withAccount (fields : Fields) (account : Message) : Message :=
  (Message.new fields).set "account" (.message (some account))

/-! ## Authentication

`basicAuth` is `_basicAuthMetadata`. -/

section
variable (basicAuth : String)

def authenticate (rpc : Rpc) (account : Message) (username : Option String) (create : Option Bool)
    (vars : NStringMap) : Call :=
  { rpc
    authorization := basicAuth
    request :=
      ((withAccount rpc.input (account.set "vars" (varsField vars))).setOpt "username"
        (username.map stringField)).setOpt "create" (create.map boolValue) }

def authenticateDevice (id : String) (username : Option String) (create : Option Bool)
    (vars : NStringMap) : Call :=
  authenticate basicAuth ApiGrpc.authenticateDevice (accountDevice id) username create vars

def authenticateEmail (email password username : String) (create : Bool) (vars : NStringMap) : Call :=
  authenticate basicAuth ApiGrpc.authenticateEmail (accountEmail email password) (nonEmpty username)
    (some create) vars

def authenticateFacebook (accessToken username : String) (create importFriends : Bool)
    (vars : NStringMap) : Call :=
  let call :=
    authenticate basicAuth ApiGrpc.authenticateFacebook (accountFacebook accessToken)
      (nonEmpty username) (some create) vars
  { call with request := call.request.set "sync" (boolValue importFriends) }

def authenticateGoogle (accessToken username : String) (create : Bool) (vars : NStringMap) : Call :=
  authenticate basicAuth ApiGrpc.authenticateGoogle (accountGoogle accessToken) (nonEmpty username)
    (some create) vars

def authenticateGameCenter (player : GameCenterCredentials) (username : String) (create : Bool)
    (vars : NStringMap) : Call :=
  authenticate basicAuth ApiGrpc.authenticateGameCenter (accountGameCenter player)
    (nonEmpty username) (some create) vars

def authenticateCustom (id username : String) (create : Bool) (vars : NStringMap) : Call :=
  authenticate basicAuth ApiGrpc.authenticateCustom (accountCustom id) (nonEmpty username)
    (some create) vars

def authenticateSteam (token username : String) (create : Bool) (vars : NStringMap) : Call :=
  authenticate basicAuth ApiGrpc.authenticateSteam (accountSteam token) (nonEmpty username)
    (some create) vars

end

section
variable (session : NSession)

def linkFacebook (accessToken : String) (importFriends : Option Bool) : Call :=
  ⟨ApiGrpc.linkFacebook, session.metadata,
    (withAccount ApiGrpc.linkFacebookRequest (accountFacebook accessToken)).setOpt "sync"
      (importFriends.map boolValue)⟩

def linkEmail (email password : String) : Call :=
  ⟨ApiGrpc.linkEmail, session.metadata, accountEmail email password⟩

def linkDevice (id : String) : Call := ⟨ApiGrpc.linkDevice, session.metadata, accountDevice id⟩

def linkGoogle (accessToken : String) : Call :=
  ⟨ApiGrpc.linkGoogle, session.metadata, accountGoogle accessToken⟩

def linkGameCenter (player : GameCenterCredentials) : Call :=
  ⟨ApiGrpc.linkGameCenter, session.metadata, accountGameCenter player⟩

def linkSteam (token : String) : Call := ⟨ApiGrpc.linkSteam, session.metadata, accountSteam token⟩

def linkCustom (id : String) : Call := ⟨ApiGrpc.linkCustom, session.metadata, accountCustom id⟩

def unlinkFacebook (accessToken : String) : Call :=
  ⟨ApiGrpc.unlinkFacebook, session.metadata, accountFacebook accessToken⟩

def unlinkEmail (email password : String) : Call :=
  ⟨ApiGrpc.unlinkEmail, session.metadata, accountEmail email password⟩

def unlinkGoogle (accessToken : String) : Call :=
  ⟨ApiGrpc.unlinkGoogle, session.metadata, accountGoogle accessToken⟩

def unlinkGameCenter (player : GameCenterCredentials) : Call :=
  ⟨ApiGrpc.unlinkGameCenter, session.metadata, accountGameCenter player⟩

def unlinkSteam (token : String) : Call := ⟨ApiGrpc.unlinkSteam, session.metadata, accountSteam token⟩

def unlinkDevice (id : String) : Call := ⟨ApiGrpc.unlinkDevice, session.metadata, accountDevice id⟩

def unlinkCustom (id : String) : Call := ⟨ApiGrpc.unlinkCustom, session.metadata, accountCustom id⟩

def importFacebookFriends (token : String) (reset : Option Bool) : Call :=
  ⟨ApiGrpc.importFacebookFriends, session.metadata,
    (withAccount ApiGrpc.importFacebookFriendsRequest (accountFacebook token)).setOpt "reset"
      (reset.map boolValue)⟩

def getAccount : Call := ⟨ApiGrpc.getAccount, session.metadata, []⟩

def updateAccount (username displayName avatarUrl langTag location timezone : Option String) : Call :=
  ⟨ApiGrpc.updateAccount, session.metadata,
    ((((((Message.new ApiGrpc.updateAccountRequest).setOpt
      "username" (username.map stringValue)).setOpt
      "display_name" (displayName.map stringValue)).setOpt
      "avatar_url" (avatarUrl.map stringValue)).setOpt
      "lang_tag" (langTag.map stringValue)).setOpt
      "location" (location.map stringValue)).setOpt
      "timezone" (timezone.map stringValue)⟩

def getUsers (ids usernames facebookIds : List String) : Call :=
  ⟨ApiGrpc.getUsers, session.metadata,
    (((Message.new ApiGrpc.getUsersRequest).set "ids" (stringsField ids)).set
      "usernames" (stringsField usernames)).set
      "facebook_ids" (stringsField facebookIds)⟩

/-! ## Friends -/

def friends (rpc : Rpc) (ids usernames : List String) : Call :=
  ⟨rpc, session.metadata,
    ((Message.new rpc.input).set "ids" (stringsField ids)).set "usernames" (stringsField usernames)⟩

def addFriends (ids usernames : List String) : Call :=
  friends session ApiGrpc.addFriends ids usernames

def deleteFriends (ids usernames : List String) : Call :=
  friends session ApiGrpc.deleteFriends ids usernames

def blockFriends (ids usernames : List String) : Call :=
  friends session ApiGrpc.blockFriends ids usernames

/-- The fields `limit`, `state` and `cursor`. -/
def setByState (m : Message) (limit : Option Int32) (state : Option NFriendState) (cursor : String) :
    Message :=
  ((m.setOpt "limit" (limit.map int32Value)).setOpt
    "state" ((state.map NFriendState.toInt32).map int32Value)).setOpt
    "cursor" ((nonEmpty cursor).map stringField)

def listFriends (limit : Option Int32) (state : Option NFriendState) (cursor : String) : Call :=
  ⟨ApiGrpc.listFriends, session.metadata,
    setByState (Message.new ApiGrpc.listFriendsRequest) limit state cursor⟩

/-! ## Groups -/

def createGroup (name description avatarUrl langTag : String) (isOpen : Bool)
    (maxCount : Option Int32) : Call :=
  ⟨ApiGrpc.createGroup, session.metadata,
    ((((((Message.new ApiGrpc.createGroupRequest).set "name" (stringField name)).setOpt
      "description" ((nonEmpty description).map stringField)).setOpt
      "avatar_url" ((nonEmpty avatarUrl).map stringField)).setOpt
      "lang_tag" ((nonEmpty langTag).map stringField)).setOpt
      "max_count" (maxCount.map fun n => .scalar (.int32 n))).set
      "open" (.scalar (.bool isOpen))⟩

/-- A request with one string set, such as the id of a group. -/
def withId (fields : Fields) (name id : String) : Message :=
  (Message.new fields).set name (stringField id)

def deleteGroup (groupId : String) : Call :=
  ⟨ApiGrpc.deleteGroup, session.metadata, withId ApiGrpc.deleteGroupRequest "group_id" groupId⟩

def groupUsers (rpc : Rpc) (groupId : String) (ids : List String) : Call :=
  ⟨rpc, session.metadata,
    (withId rpc.input "group_id" groupId).set "user_ids" (stringsField ids)⟩

def addGroupUsers (groupId : String) (ids : List String) : Call :=
  groupUsers session ApiGrpc.addGroupUsers groupId ids

def kickGroupUsers (groupId : String) (ids : List String) : Call :=
  groupUsers session ApiGrpc.kickGroupUsers groupId ids

def promoteGroupUsers (groupId : String) (ids : List String) : Call :=
  groupUsers session ApiGrpc.promoteGroupUsers groupId ids

def joinGroup (groupId : String) : Call :=
  ⟨ApiGrpc.joinGroup, session.metadata, withId ApiGrpc.joinGroupRequest "group_id" groupId⟩

def leaveGroup (groupId : String) : Call :=
  ⟨ApiGrpc.leaveGroup, session.metadata, withId ApiGrpc.leaveGroupRequest "group_id" groupId⟩

def listGroupUsers (groupId : String) (limit : Option Int32) (state : Option NFriendState)
    (cursor : String) : Call :=
  ⟨ApiGrpc.listGroupUsers, session.metadata,
    setByState (withId ApiGrpc.listGroupUsersRequest "group_id" groupId) limit state cursor⟩

def listGroups (name : String) (limit : Int32) (cursor : String) : Call :=
  ⟨ApiGrpc.listGroups, session.metadata,
    ((withId ApiGrpc.listGroupsRequest "name" name).setOpt
      "limit" ((positive limit).map int32Value)).setOpt
      "cursor" ((nonEmpty cursor).map stringField)⟩

def listUserGroups (userId : String) (limit : Option Int32) (state : Option NFriendState)
    (cursor : String) : Call :=
  ⟨ApiGrpc.listUserGroups, session.metadata,
    setByState (withId ApiGrpc.listUserGroupsRequest "user_id" userId) limit state cursor⟩

def updateGroup (groupId : String) (name description avatarUrl langTag : Option String)
    (isOpen : Option Bool) : Call :=
  ⟨ApiGrpc.updateGroup, session.metadata,
    (((((withId ApiGrpc.updateGroupRequest "group_id" groupId).setOpt
      "name" (name.map stringValue)).setOpt
      "description" (description.map stringValue)).setOpt
      "avatar_url" (avatarUrl.map stringValue)).setOpt
      "lang_tag" (langTag.map stringValue)).setOpt
      "open" (isOpen.map boolValue)⟩

/-! ## Leaderboards and tournaments -/

def listLeaderboardRecords (leaderboardId : String) (ownerIds : List String) (limit : Option Int32)
    (cursor : Option String) : Call :=
  ⟨ApiGrpc.listLeaderboardRecords, session.metadata,
    (((withId ApiGrpc.listLeaderboardRecordsRequest "leaderboard_id" leaderboardId).set
      "owner_ids" (stringsField ownerIds)).setOpt
      "limit" (limit.map int32Value)).setOpt
      "cursor" (cursor.map stringField)⟩

/-- The limits of the lists around an owner are `UInt32Value`s, set from an `int32_t`. -/
def listLeaderboardRecordsAroundOwner (leaderboardId ownerId : String) (limit : Option Int32) : Call :=
  ⟨ApiGrpc.listLeaderboardRecordsAroundOwner, session.metadata,
    ((withId ApiGrpc.listLeaderboardRecordsAroundOwnerRequest "leaderboard_id" leaderboardId).set
      "owner_id" (stringField ownerId)).setOpt
      "limit" (limit.map fun n => uint32Value n.toUInt32)⟩

/-- The fields of the record of a leaderboard or of a tournament. -/
def record (fields : Fields) (score : Int64) (subscore : Option Int64) (metadata : Option String) :
    Message :=
  (((Message.new fields).set "score" (.scalar (.int64 score))).setOpt
    "subscore" (subscore.map fun n => .scalar (.int64 n))).setOpt
    "metadata" (metadata.map stringField)

def writeLeaderboardRecord (leaderboardId : String) (score : Int64) (subscore : Option Int64)
    (metadata : Option String) : Call :=
  ⟨ApiGrpc.writeLeaderboardRecord, session.metadata,
    (withId ApiGrpc.writeLeaderboardRecordRequest "leaderboard_id" leaderboardId).set
      "record" (.message (some (record ApiGrpc.leaderboardRecordWrite score subscore metadata)))⟩

def writeTournamentRecord (tournamentId : String) (score : Int64) (subscore : Option Int64)
    (metadata : Option String) : Call :=
  ⟨ApiGrpc.writeTournamentRecord, session.metadata,
    (withId ApiGrpc.writeTournamentRecordRequest "tournament_id" tournamentId).set
      "record" (.message (some (record ApiGrpc.tournamentRecordWrite score subscore metadata)))⟩

def deleteLeaderboardRecord (leaderboardId : String) : Call :=
  ⟨ApiGrpc.deleteLeaderboardRecord, session.metadata,
    withId ApiGrpc.deleteLeaderboardRecordRequest "leaderboard_id" leaderboardId⟩

def listTournaments (categoryStart categoryEnd startTime endTime : Option UInt32)
    (limit : Option Int32) (cursor : Option String) : Call :=
  ⟨ApiGrpc.listTournaments, session.metadata,
    ((((((Message.new ApiGrpc.listTournamentsRequest).setOpt
      "category_start" (categoryStart.map uint32Value)).setOpt
      "category_end" (categoryEnd.map uint32Value)).setOpt
      "start_time" (startTime.map uint32Value)).setOpt
      "end_time" (endTime.map uint32Value)).setOpt
      "limit" (limit.map int32Value)).setOpt
      "cursor" (cursor.map stringField)⟩

def listTournamentRecords (tournamentId : String) (limit : Option Int32) (cursor : Option String)
    (ownerIds : List String) : Call :=
  ⟨ApiGrpc.listTournamentRecords, session.metadata,
    (((withId ApiGrpc.listTournamentRecordsRequest "tournament_id" tournamentId).setOpt
      "limit" (limit.map int32Value)).setOpt
      "cursor" (cursor.map stringField)).set
      "owner_ids" (stringsField ownerIds)⟩

def listTournamentRecordsAroundOwner (tournamentId ownerId : String) (limit : Option Int32) : Call :=
  ⟨ApiGrpc.listTournamentRecordsAroundOwner, session.metadata,
    ((withId ApiGrpc.listTournamentRecordsAroundOwnerRequest "tournament_id" tournamentId).set
      "owner_id" (stringField ownerId)).setOpt
      "limit" (limit.map fun n => uint32Value n.toUInt32)⟩

def joinTournament (tournamentId : String) : Call :=
  ⟨ApiGrpc.joinTournament, session.metadata,
    withId ApiGrpc.joinTournamentRequest "tournament_id" tournamentId⟩

/-! ## Matches, notifications, messages -/

def listMatches (minSize maxSize limit : Option Int32) (label : Option String)
    (authoritative : Option Bool) : Call :=
  ⟨ApiGrpc.listMatches, session.metadata,
    (((((Message.new ApiGrpc.listMatchesRequest).setOpt
      "min_size" (minSize.map int32Value)).setOpt
      "max_size" (maxSize.map int32Value)).setOpt
      "limit" (limit.map int32Value)).setOpt
      "label" (label.map stringValue)).setOpt
      "authoritative" (authoritative.map boolValue)⟩

def listNotifications (limit : Option Int32) (cacheableCursor : Option String) : Call :=
  ⟨ApiGrpc.listNotifications, session.metadata,
    ((Message.new ApiGrpc.listNotificationsRequest).setOpt "limit" (limit.map int32Value)).setOpt
      "cacheable_cursor" (cacheableCursor.map stringField)⟩

def deleteNotifications (notificationIds : List String) : Call :=
  ⟨ApiGrpc.deleteNotifications, session.metadata,
    (Message.new ApiGrpc.deleteNotificationsRequest).set "ids" (stringsField notificationIds)⟩

def listChannelMessages (channelId : String) (limit : Option Int32) (cursor : Option String)
    (forward : Option Bool) : Call :=
  ⟨ApiGrpc.listChannelMessages, session.metadata,
    (((withId ApiGrpc.listChannelMessagesRequest "channel_id" channelId).setOpt
      "limit" (limit.map int32Value)).setOpt
      "cursor" (cursor.map stringField)).setOpt
      "forward" (forward.map boolValue)⟩

/-! ## Storage -/

def listStorageObjects (collection : String) (limit : Option Int32) (cursor : Option String) : Call :=
  ⟨ApiGrpc.listStorageObjects, session.metadata,
    ((withId ApiGrpc.listStorageObjectsRequest "collection" collection).setOpt
      "limit" (limit.map int32Value)).setOpt
      "cursor" (cursor.map stringField)⟩

def listUsersStorageObjects (collection userId : String) (limit : Option Int32)
    (cursor : Option String) : Call :=
  ⟨ApiGrpc.listStorageObjects, session.metadata,
    (((withId ApiGrpc.listStorageObjectsRequest "collection" collection).set
      "user_id" (stringField userId)).setOpt
      "limit" (limit.map int32Value)).setOpt
      "cursor" (cursor.map stringField)⟩

def writeObject (obj : NStorageObjectWrite) : Message :=
  ((((((Message.new ApiGrpc.writeStorageObject).set "collection" (stringField obj.collection)).set
    "key" (stringField obj.key)).set
    "value" (stringField obj.value)).set
    "version" (stringField obj.version)).setOpt
    "permission_read" ((obj.permissionRead.map NStoragePermissionRead.toInt32).map int32Value)).setOpt
    "permission_write" ((obj.permissionWrite.map NStoragePermissionWrite.toInt32).map int32Value)

def readObjectId (obj : NReadStorageObjectId) : Message :=
  (((Message.new ApiGrpc.readStorageObjectId).set "collection" (stringField obj.collection)).set
    "key" (stringField obj.key)).set
    "user_id" (stringField obj.userId)

def deleteObjectId (obj : NDeleteStorageObjectId) : Message :=
  (((Message.new ApiGrpc.deleteStorageObjectId).set "collection" (stringField obj.collection)).set
    "key" (stringField obj.key)).set
    "version" (stringField obj.version)

def writeStorageObjects (objects : List NStorageObjectWrite) : Call :=
  ⟨ApiGrpc.writeStorageObjects, session.metadata,
    (Message.new ApiGrpc.writeStorageObjectsRequest).set "objects"
      (.repeatedMessage (objects.map writeObject))⟩

def readStorageObjects (objectIds : List NReadStorageObjectId) : Call :=
  ⟨ApiGrpc.readStorageObjects, session.metadata,
    (Message.new ApiGrpc.readStorageObjectsRequest).set "object_ids"
      (.repeatedMessage (objectIds.map readObjectId))⟩

def deleteStorageObjects (objectIds : List NDeleteStorageObjectId) : Call :=
  ⟨ApiGrpc.deleteStorageObjects, session.metadata,
    (Message.new ApiGrpc.deleteStorageObjectsRequest).set "object_ids"
      (.repeatedMessage (objectIds.map deleteObjectId))⟩

/-! ## RPC -/

def rpc (id : String) (payload : Option String) : Call :=
  ⟨ApiGrpc.rpcFunc, session.metadata,
    (withId ApiGrpc.rpc "id" id).setOpt "payload" (payload.map stringField)⟩

end

/-- No authorization: the key is a field of the request. -/
def rpcWithKey (httpKey id : String) (payload : Option String) : Call :=
  ⟨ApiGrpc.rpcFunc, "",
    ((withId ApiGrpc.rpc "id" id).set "http_key" (stringField httpKey)).setOpt
      "payload" (payload.map stringField)⟩

/-- The call of an operation; without a session, `listOwnGroups` makes none. -/
def call (basicAuth : String) : ClientOp → Option Call
  | .authenticateDevice id username create vars =>
    some (authenticateDevice basicAuth id username create vars)
  | .authenticateEmail email password username create vars =>
    some (authenticateEmail basicAuth email password username create vars)
  | .authenticateFacebook accessToken username create importFriends vars =>
    some (authenticateFacebook basicAuth accessToken username create importFriends vars)
  | .authenticateGoogle accessToken username create vars =>
    some (authenticateGoogle basicAuth accessToken username create vars)
  | .authenticateGameCenter player username create vars =>
    some (authenticateGameCenter basicAuth player username create vars)
  | .authenticateCustom id username create vars =>
    some (authenticateCustom basicAuth id username create vars)
  | .authenticateSteam token username create vars =>
    some (authenticateSteam basicAuth token username create vars)
  | .linkFacebook session accessToken importFriends =>
    some (linkFacebook session accessToken importFriends)
  | .linkEmail session email password => some (linkEmail session email password)
  | .linkDevice session id => some (linkDevice session id)
  | .linkGoogle session accessToken => some (linkGoogle session accessToken)
  | .linkGameCenter session player => some (linkGameCenter session player)
  | .linkSteam session token => some (linkSteam session token)
  | .linkCustom session id => some (linkCustom session id)
  | .unlinkFacebook session accessToken => some (unlinkFacebook session accessToken)
  | .unlinkEmail session email password => some (unlinkEmail session email password)
  | .unlinkGoogle session accessToken => some (unlinkGoogle session accessToken)
  | .unlinkGameCenter session player => some (unlinkGameCenter session player)
  | .unlinkSteam session token => some (unlinkSteam session token)
  | .unlinkDevice session id => some (unlinkDevice session id)
  | .unlinkCustom session id => some (unlinkCustom session id)
  | .importFacebookFriends session token reset => some (importFacebookFriends session token reset)
  | .getAccount session => some (getAccount session)
  | .updateAccount session username displayName avatarUrl langTag location timezone =>
    some (updateAccount session username displayName avatarUrl langTag location timezone)
  | .getUsers session ids usernames facebookIds => some (getUsers session ids usernames facebookIds)
  | .addFriends session ids usernames => some (addFriends session ids usernames)
  | .deleteFriends session ids usernames => some (deleteFriends session ids usernames)
  | .blockFriends session ids usernames => some (blockFriends session ids usernames)
  | .listFriends session limit state cursor => some (listFriends session limit state cursor)
  | .createGroup session name description avatarUrl langTag isOpen maxCount =>
    some (createGroup session name description avatarUrl langTag isOpen maxCount)
  | .deleteGroup session groupId => some (deleteGroup session groupId)
  | .addGroupUsers session groupId ids => some (addGroupUsers session groupId ids)
  | .listGroupUsers session groupId limit state cursor =>
    some (listGroupUsers session groupId limit state cursor)
  | .kickGroupUsers session groupId ids => some (kickGroupUsers session groupId ids)
  | .joinGroup session groupId => some (joinGroup session groupId)
  | .leaveGroup session groupId => some (leaveGroup session groupId)
  | .listGroups session name limit cursor => some (listGroups session name limit cursor)
  | .listOwnGroups session limit state cursor =>
    session.map fun session => listUserGroups session session.userId limit state cursor
  | .listUserGroups session userId limit state cursor =>
    some (listUserGroups session userId limit state cursor)
  | .promoteGroupUsers session groupId ids => some (promoteGroupUsers session groupId ids)
  | .updateGroup session groupId name description avatarUrl langTag isOpen =>
    some (updateGroup session groupId name description avatarUrl langTag isOpen)
  | .listLeaderboardRecords session leaderboardId ownerIds limit cursor =>
    some (listLeaderboardRecords session leaderboardId ownerIds limit cursor)
  | .listLeaderboardRecordsAroundOwner session leaderboardId ownerId limit =>
    some (listLeaderboardRecordsAroundOwner session leaderboardId ownerId limit)
  | .writeLeaderboardRecord session leaderboardId score subscore metadata =>
    some (writeLeaderboardRecord session leaderboardId score subscore metadata)
  | .writeTournamentRecord session tournamentId score subscore metadata =>
    some (writeTournamentRecord session tournamentId score subscore metadata)
  | .deleteLeaderboardRecord session leaderboardId =>
    some (deleteLeaderboardRecord session leaderboardId)
  | .listMatches session minSize maxSize limit label authoritative =>
    some (listMatches session minSize maxSize limit label authoritative)
  | .listNotifications session limit cacheableCursor =>
    some (listNotifications session limit cacheableCursor)
  | .deleteNotifications session notificationIds => some (deleteNotifications session notificationIds)
  | .listChannelMessages session channelId limit cursor forward =>
    some (listChannelMessages session channelId limit cursor forward)
  | .listTournaments session categoryStart categoryEnd startTime endTime limit cursor =>
    some (listTournaments session categoryStart categoryEnd startTime endTime limit cursor)
  | .listTournamentRecords session tournamentId limit cursor ownerIds =>
    some (listTournamentRecords session tournamentId limit cursor ownerIds)
  | .listTournamentRecordsAroundOwner session tournamentId ownerId limit =>
    some (listTournamentRecordsAroundOwner session tournamentId ownerId limit)
  | .joinTournament session tournamentId => some (joinTournament session tournamentId)
  | .listStorageObjects session collection limit cursor =>
    some (listStorageObjects session collection limit cursor)
  | .listUsersStorageObjects session collection userId limit cursor =>
    some (listUsersStorageObjects session collection userId limit cursor)
  | .writeStorageObjects session objects => some (writeStorageObjects session objects)
  | .readStorageObjects session objectIds => some (readStorageObjects session objectIds)
  | .deleteStorageObjects session objectIds => some (deleteStorageObjects session objectIds)
  | .rpc session id payload => some (rpc session id payload)
  | .rpcWithKey httpKey id payload => some (rpcWithKey httpKey id payload)

end GrpcClient

end NakamaCpp.Rest
