import NakamaCpp.Lib.Transcode

/-!
# The service: request types and HTTP rules

From the descriptors in src/api/github.com/heroiclabs/nakama-common/api/api.pb.cc
(messages) and src/api/github.com/heroiclabs/nakama/apigrpc/apigrpc.pb.cc (the
service `Nakama` with its `google.api.http` rules), decoded by the proto names.  Only
the request types and what they contain are here; `Healthcheck`, which no operation of
the clients calls, is not.
-/

namespace NakamaCpp.Rest.ApiGrpc

open Transcode

instance : Coe String Segment := ⟨.lit⟩

def get (path : List Segment) (body : Body := .none) : HttpBinding := { method := "GET", path, body }

def post (path : List Segment) (body : Body := .none) : HttpBinding := { method := "POST", path, body }

def put (path : List Segment) (body : Body := .none) : HttpBinding := { method := "PUT", path, body }

def delete (path : List Segment) (body : Body := .none) : HttpBinding :=
  { method := "DELETE", path, body }

/-! ## Request types -/

def addFriendsRequest : Fields := [("ids", .repeated .string), ("usernames", .repeated .string)]

def addGroupUsersRequest : Fields :=
  [("group_id", .scalar .string), ("user_ids", .repeated .string)]

def accountCustom : Fields := [("id", .scalar .string), ("vars", .stringMap)]

def authenticateCustomRequest : Fields :=
  [("account", .message accountCustom), ("create", .wrapper .bool), ("username", .scalar .string)]

def accountDevice : Fields := [("id", .scalar .string), ("vars", .stringMap)]

def authenticateDeviceRequest : Fields :=
  [("account", .message accountDevice), ("create", .wrapper .bool), ("username", .scalar .string)]

def accountEmail : Fields :=
  [("email", .scalar .string), ("password", .scalar .string), ("vars", .stringMap)]

def authenticateEmailRequest : Fields :=
  [("account", .message accountEmail), ("create", .wrapper .bool), ("username", .scalar .string)]

def accountFacebook : Fields := [("token", .scalar .string), ("vars", .stringMap)]

def authenticateFacebookRequest : Fields :=
  [("account", .message accountFacebook), ("create", .wrapper .bool),
   ("username", .scalar .string), ("sync", .wrapper .bool)]

def accountGameCenter : Fields :=
  [("player_id", .scalar .string), ("bundle_id", .scalar .string),
   ("timestamp_seconds", .scalar .int64), ("salt", .scalar .string),
   ("signature", .scalar .string), ("public_key_url", .scalar .string), ("vars", .stringMap)]

def authenticateGameCenterRequest : Fields :=
  [("account", .message accountGameCenter), ("create", .wrapper .bool),
   ("username", .scalar .string)]

def accountGoogle : Fields := [("token", .scalar .string), ("vars", .stringMap)]

def authenticateGoogleRequest : Fields :=
  [("account", .message accountGoogle), ("create", .wrapper .bool), ("username", .scalar .string)]

def accountSteam : Fields := [("token", .scalar .string), ("vars", .stringMap)]

def authenticateSteamRequest : Fields :=
  [("account", .message accountSteam), ("create", .wrapper .bool), ("username", .scalar .string)]

def blockFriendsRequest : Fields := [("ids", .repeated .string), ("usernames", .repeated .string)]

def createGroupRequest : Fields :=
  [("name", .scalar .string), ("description", .scalar .string), ("lang_tag", .scalar .string),
   ("avatar_url", .scalar .string), ("open", .scalar .bool), ("max_count", .scalar .int32)]

def deleteFriendsRequest : Fields :=
  [("ids", .repeated .string), ("usernames", .repeated .string)]

def deleteGroupRequest : Fields := [("group_id", .scalar .string)]

def deleteLeaderboardRecordRequest : Fields := [("leaderboard_id", .scalar .string)]

def deleteNotificationsRequest : Fields := [("ids", .repeated .string)]

def deleteStorageObjectId : Fields :=
  [("collection", .scalar .string), ("key", .scalar .string), ("version", .scalar .string)]

def deleteStorageObjectsRequest : Fields :=
  [("object_ids", .repeatedMessage deleteStorageObjectId)]

def getUsersRequest : Fields :=
  [("ids", .repeated .string), ("usernames", .repeated .string),
   ("facebook_ids", .repeated .string)]

def importFacebookFriendsRequest : Fields :=
  [("account", .message accountFacebook), ("reset", .wrapper .bool)]

def joinGroupRequest : Fields := [("group_id", .scalar .string)]

def joinTournamentRequest : Fields := [("tournament_id", .scalar .string)]

def kickGroupUsersRequest : Fields :=
  [("group_id", .scalar .string), ("user_ids", .repeated .string)]

def leaveGroupRequest : Fields := [("group_id", .scalar .string)]

def linkFacebookRequest : Fields :=
  [("account", .message accountFacebook), ("sync", .wrapper .bool)]

def listChannelMessagesRequest : Fields :=
  [("channel_id", .scalar .string), ("limit", .wrapper .int32), ("forward", .wrapper .bool),
   ("cursor", .scalar .string)]

def listFriendsRequest : Fields :=
  [("limit", .wrapper .int32), ("state", .wrapper .int32), ("cursor", .scalar .string)]

def listGroupsRequest : Fields :=
  [("name", .scalar .string), ("cursor", .scalar .string), ("limit", .wrapper .int32)]

def listGroupUsersRequest : Fields :=
  [("group_id", .scalar .string), ("limit", .wrapper .int32), ("state", .wrapper .int32),
   ("cursor", .scalar .string)]

def listLeaderboardRecordsRequest : Fields :=
  [("leaderboard_id", .scalar .string), ("owner_ids", .repeated .string),
   ("limit", .wrapper .int32), ("cursor", .scalar .string), ("expiry", .wrapper .int64)]

def listLeaderboardRecordsAroundOwnerRequest : Fields :=
  [("leaderboard_id", .scalar .string), ("limit", .wrapper .uint32),
   ("owner_id", .scalar .string), ("expiry", .wrapper .int64)]

def listMatchesRequest : Fields :=
  [("limit", .wrapper .int32), ("authoritative", .wrapper .bool), ("label", .wrapper .string),
   ("min_size", .wrapper .int32), ("max_size", .wrapper .int32), ("query", .wrapper .string)]

def listNotificationsRequest : Fields :=
  [("limit", .wrapper .int32), ("cacheable_cursor", .scalar .string)]

def listStorageObjectsRequest : Fields :=
  [("user_id", .scalar .string), ("collection", .scalar .string), ("limit", .wrapper .int32),
   ("cursor", .scalar .string)]

def listTournamentsRequest : Fields :=
  [("category_start", .wrapper .uint32), ("category_end", .wrapper .uint32),
   ("start_time", .wrapper .uint32), ("end_time", .wrapper .uint32), ("limit", .wrapper .int32),
   ("cursor", .scalar .string)]

def listTournamentRecordsRequest : Fields :=
  [("tournament_id", .scalar .string), ("owner_ids", .repeated .string),
   ("limit", .wrapper .int32), ("cursor", .scalar .string), ("expiry", .wrapper .int64)]

def listTournamentRecordsAroundOwnerRequest : Fields :=
  [("tournament_id", .scalar .string), ("limit", .wrapper .uint32),
   ("owner_id", .scalar .string), ("expiry", .wrapper .int64)]

def listUserGroupsRequest : Fields :=
  [("user_id", .scalar .string), ("limit", .wrapper .int32), ("state", .wrapper .int32),
   ("cursor", .scalar .string)]

def promoteGroupUsersRequest : Fields :=
  [("group_id", .scalar .string), ("user_ids", .repeated .string)]

def readStorageObjectId : Fields :=
  [("collection", .scalar .string), ("key", .scalar .string), ("user_id", .scalar .string)]

def readStorageObjectsRequest : Fields := [("object_ids", .repeatedMessage readStorageObjectId)]

def rpc : Fields :=
  [("id", .scalar .string), ("payload", .scalar .string), ("http_key", .scalar .string)]

def updateAccountRequest : Fields :=
  [("username", .wrapper .string), ("display_name", .wrapper .string),
   ("avatar_url", .wrapper .string), ("lang_tag", .wrapper .string),
   ("location", .wrapper .string), ("timezone", .wrapper .string)]

def updateGroupRequest : Fields :=
  [("group_id", .scalar .string), ("name", .wrapper .string), ("description", .wrapper .string),
   ("lang_tag", .wrapper .string), ("avatar_url", .wrapper .string), ("open", .wrapper .bool)]

def leaderboardRecordWrite : Fields :=
  [("score", .scalar .int64), ("subscore", .scalar .int64), ("metadata", .scalar .string)]

def writeLeaderboardRecordRequest : Fields :=
  [("leaderboard_id", .scalar .string), ("record", .message leaderboardRecordWrite)]

def writeStorageObject : Fields :=
  [("collection", .scalar .string), ("key", .scalar .string), ("value", .scalar .string),
   ("version", .scalar .string), ("permission_read", .wrapper .int32),
   ("permission_write", .wrapper .int32)]

def writeStorageObjectsRequest : Fields := [("objects", .repeatedMessage writeStorageObject)]

def tournamentRecordWrite : Fields :=
  [("score", .scalar .int64), ("subscore", .scalar .int64), ("metadata", .scalar .string)]

def writeTournamentRecordRequest : Fields :=
  [("tournament_id", .scalar .string), ("record", .message tournamentRecordWrite)]

/-! ## RPCs -/

def addFriends : Rpc := ⟨addFriendsRequest, [post ["v2", "friend"]]⟩

def addGroupUsers : Rpc := ⟨addGroupUsersRequest, [post ["v2", "group", .var "group_id", "add"]]⟩

def authenticateCustom : Rpc :=
  ⟨authenticateCustomRequest, [post ["v2", "account", "authenticate", "custom"] (.field "account")]⟩

def authenticateDevice : Rpc :=
  ⟨authenticateDeviceRequest, [post ["v2", "account", "authenticate", "device"] (.field "account")]⟩

def authenticateEmail : Rpc :=
  ⟨authenticateEmailRequest, [post ["v2", "account", "authenticate", "email"] (.field "account")]⟩

def authenticateFacebook : Rpc :=
  ⟨authenticateFacebookRequest, [post ["v2", "account", "authenticate", "facebook"] (.field "account")]⟩

def authenticateGameCenter : Rpc :=
  ⟨authenticateGameCenterRequest, [post ["v2", "account", "authenticate", "gamecenter"] (.field "account")]⟩

def authenticateGoogle : Rpc :=
  ⟨authenticateGoogleRequest, [post ["v2", "account", "authenticate", "google"] (.field "account")]⟩

def authenticateSteam : Rpc :=
  ⟨authenticateSteamRequest, [post ["v2", "account", "authenticate", "steam"] (.field "account")]⟩

def blockFriends : Rpc := ⟨blockFriendsRequest, [post ["v2", "friend", "block"]]⟩

def createGroup : Rpc := ⟨createGroupRequest, [post ["v2", "group"] .all]⟩

def deleteFriends : Rpc := ⟨deleteFriendsRequest, [delete ["v2", "friend"]]⟩

def deleteGroup : Rpc := ⟨deleteGroupRequest, [delete ["v2", "group", .var "group_id"]]⟩

def deleteLeaderboardRecord : Rpc :=
  ⟨deleteLeaderboardRecordRequest, [delete ["v2", "leaderboard", .var "leaderboard_id"]]⟩

def deleteNotifications : Rpc := ⟨deleteNotificationsRequest, [delete ["v2", "notification"]]⟩

def deleteStorageObjects : Rpc :=
  ⟨deleteStorageObjectsRequest, [put ["v2", "storage", "delete"] .all]⟩

def getAccount : Rpc := ⟨[], [get ["v2", "account"]]⟩

def getUsers : Rpc := ⟨getUsersRequest, [get ["v2", "user"]]⟩

def importFacebookFriends : Rpc :=
  ⟨importFacebookFriendsRequest, [post ["v2", "friend", "facebook"] (.field "account")]⟩

def joinGroup : Rpc := ⟨joinGroupRequest, [post ["v2", "group", .var "group_id", "join"]]⟩

def joinTournament : Rpc :=
  ⟨joinTournamentRequest, [post ["v2", "tournament", .var "tournament_id", "join"]]⟩

def kickGroupUsers : Rpc :=
  ⟨kickGroupUsersRequest, [post ["v2", "group", .var "group_id", "kick"]]⟩

def leaveGroup : Rpc := ⟨leaveGroupRequest, [post ["v2", "group", .var "group_id", "leave"]]⟩

def linkCustom : Rpc := ⟨accountCustom, [post ["v2", "account", "link", "custom"] .all]⟩

def linkDevice : Rpc := ⟨accountDevice, [post ["v2", "account", "link", "device"] .all]⟩

def linkEmail : Rpc := ⟨accountEmail, [post ["v2", "account", "link", "email"] .all]⟩

def linkFacebook : Rpc :=
  ⟨linkFacebookRequest, [post ["v2", "account", "link", "facebook"] (.field "account")]⟩

def linkGameCenter : Rpc :=
  ⟨accountGameCenter, [post ["v2", "account", "link", "gamecenter"] .all]⟩

def linkGoogle : Rpc := ⟨accountGoogle, [post ["v2", "account", "link", "google"] .all]⟩

def linkSteam : Rpc := ⟨accountSteam, [post ["v2", "account", "link", "steam"] .all]⟩

def listChannelMessages : Rpc :=
  ⟨listChannelMessagesRequest, [get ["v2", "channel", .var "channel_id"]]⟩

def listFriends : Rpc := ⟨listFriendsRequest, [get ["v2", "friend"]]⟩

def listGroups : Rpc := ⟨listGroupsRequest, [get ["v2", "group"]]⟩

def listGroupUsers : Rpc :=
  ⟨listGroupUsersRequest, [get ["v2", "group", .var "group_id", "user"]]⟩

def listLeaderboardRecords : Rpc :=
  ⟨listLeaderboardRecordsRequest, [get ["v2", "leaderboard", .var "leaderboard_id"]]⟩

def listLeaderboardRecordsAroundOwner : Rpc :=
  ⟨listLeaderboardRecordsAroundOwnerRequest,
   [get ["v2", "leaderboard", .var "leaderboard_id", "owner", .var "owner_id"]]⟩

def listMatches : Rpc := ⟨listMatchesRequest, [get ["v2", "match"]]⟩

def listNotifications : Rpc := ⟨listNotificationsRequest, [get ["v2", "notification"]]⟩

def listStorageObjects : Rpc :=
  ⟨listStorageObjectsRequest,
   [get ["v2", "storage", .var "collection"],
    get ["v2", "storage", .var "collection", .var "user_id"]]⟩

def listTournaments : Rpc := ⟨listTournamentsRequest, [get ["v2", "tournament"]]⟩

def listTournamentRecords : Rpc :=
  ⟨listTournamentRecordsRequest, [get ["v2", "tournament", .var "tournament_id"]]⟩

def listTournamentRecordsAroundOwner : Rpc :=
  ⟨listTournamentRecordsAroundOwnerRequest,
   [get ["v2", "tournament", .var "tournament_id", "owner", .var "owner_id"]]⟩

def listUserGroups : Rpc := ⟨listUserGroupsRequest, [get ["v2", "user", .var "user_id", "group"]]⟩

def promoteGroupUsers : Rpc :=
  ⟨promoteGroupUsersRequest, [post ["v2", "group", .var "group_id", "promote"]]⟩

def readStorageObjects : Rpc := ⟨readStorageObjectsRequest, [post ["v2", "storage"] .all]⟩

def rpcFunc : Rpc :=
  ⟨rpc,
   [post ["v2", "rpc", .var "id"] (.field "payload"),
    get ["v2", "rpc", .var "id"]]⟩

def unlinkCustom : Rpc := ⟨accountCustom, [post ["v2", "account", "unlink", "custom"] .all]⟩

def unlinkDevice : Rpc := ⟨accountDevice, [post ["v2", "account", "unlink", "device"] .all]⟩

def unlinkEmail : Rpc := ⟨accountEmail, [post ["v2", "account", "unlink", "email"] .all]⟩

def unlinkFacebook : Rpc := ⟨accountFacebook, [post ["v2", "account", "unlink", "facebook"] .all]⟩

def unlinkGameCenter : Rpc :=
  ⟨accountGameCenter, [post ["v2", "account", "unlink", "gamecenter"] .all]⟩

def unlinkGoogle : Rpc := ⟨accountGoogle, [post ["v2", "account", "unlink", "google"] .all]⟩

def unlinkSteam : Rpc := ⟨accountSteam, [post ["v2", "account", "unlink", "steam"] .all]⟩

def updateAccount : Rpc := ⟨updateAccountRequest, [put ["v2", "account"] .all]⟩

def updateGroup : Rpc := ⟨updateGroupRequest, [put ["v2", "group", .var "group_id"] .all]⟩

def writeLeaderboardRecord : Rpc :=
  ⟨writeLeaderboardRecordRequest, [post ["v2", "leaderboard", .var "leaderboard_id"] (.field "record")]⟩

def writeStorageObjects : Rpc := ⟨writeStorageObjectsRequest, [put ["v2", "storage"] .all]⟩

def writeTournamentRecord : Rpc :=
  ⟨writeTournamentRecordRequest, [put ["v2", "tournament", .var "tournament_id"] (.field "record")]⟩

end NakamaCpp.Rest.ApiGrpc
