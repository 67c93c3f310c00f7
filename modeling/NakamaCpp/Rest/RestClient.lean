import NakamaCpp.Rest.ClientOp

/-!
# The REST client: the HTTP request of each operation

Model of the part of src/RestClient.cpp between `createReqContext` and the call of
the transport: for each operation the method, the path, the query arguments and the
JSON body that it hands to `sendReq`.  A query argument or a JSON member that is added
under a condition is `optArg`, `optMember`; `NHttpQueryArgs` is a multimap, of which
only the order of the values under one name matters.
-/

namespace NakamaCpp.Rest

open Transcode JsonText

inductive NHttpReqMethod
  | GET
  | POST
  | PUT
  | DEL
deriving DecidableEq, Repr

abbrev NHttpQueryArgs := List (String × String)

structure NHttpRequest where
  method : NHttpReqMethod := .POST
  headers : List (String × String)
  queryArgs : NHttpQueryArgs
  path : String
  body : String
deriving DecidableEq, Repr

/-- Query arguments for the values that are there. -/
def optArg (name : String) (value : Option String) : NHttpQueryArgs := named name value.toList

/-- `AddBoolArg`, under a condition. -/
def optBoolArg (name : String) (value : Option Bool) : NHttpQueryArgs :=
  optArg name (value.map fun b => if b then "true" else "false")

/-- `optArg` for a number. -/
def optInt32Arg (name : String) (value : Option Int32) : NHttpQueryArgs :=
  optArg name (value.map toString)

def optUInt32Arg (name : String) (value : Option UInt32) : NHttpQueryArgs :=
  optArg name (value.map toString)

def stateArg (state : Option NFriendState) : NHttpQueryArgs :=
  optInt32Arg "state" (state.map NFriendState.toInt32)

/-- A member of a JSON document, if the value is there. -/
def optMember (name : String) (value : Option Json) : List (String × Json) := named name value.toList

def optStringMember (name : String) (value : Option String) : List (String × Json) :=
  optMember name (value.map Json.str)

def optInt32Member (name : String) (value : Option Int32) : List (String × Json) :=
  optMember name (value.map fun n => Json.int n.toInt)

/-- `jsonDocToStr` of an object. -/
def jsonDocToStr (document : List (String × Json)) : String := text (.obj document)

/-- A text as `c_str()` shows it to a function that stops at the first NUL. -/
def cStr (s : String) : String := String.ofList (s.toList.takeWhile fun c => c != '\x00')

theorem nul_not_mem_cStr (s : String) : '\x00' ∉ (cStr s).toList := by
  unfold cStr
  rw [String.toList_ofList]
  intro h
  have := List.mem_takeWhile_imp h
  simp at this

theorem cStr_eq_self {s : String} (h : '\x00' ∉ s.toList) : cStr s = s := by
  have ht : (s.toList.takeWhile fun c => c != '\x00') = s.toList :=
    List.takeWhile_eq_self_iff.2 fun c hc => by
      rw [bne_iff_ne]
      rintro rfl
      exact h hc
  unfold cStr
  rw [ht, String.ofList_toList]

/-- The object that `addVarsToJsonDoc` adds unless it is empty; the keys go through `c_str()`. -/
def varsJson (vars : NStringMap) : Option Json :=
  if vars.isEmpty then none else some (.obj (vars.toList.map fun p => (cStr p.1, Json.str p.2)))

/-- `addVarsToJsonDoc`. -/
def varsMember (vars : NStringMap) : List (String × Json) := optMember "vars" (varsJson vars)

/-- `sendReq`, with the authorization of the request context. -/
def sendReq (auth : String) (method : NHttpReqMethod) (path body : String)
    (args : NHttpQueryArgs := []) : NHttpRequest :=
  { method, path, body
    queryArgs := args
    headers :=
      [("Accept", "application/json"), ("Content-Type", "application/json")] ++
        if auth = "" then [] else [("Authorization", auth)] }

/-- `setSessionAuth`. -/
def NSession.auth (session : NSession) : String := "Bearer " ++ session.authToken

namespace RestClient

/-! ## Authentication

`basicAuth` is `_basicAuthMetadata`. -/

section
variable (basicAuth : String)

def authenticate (path : String) (args : NHttpQueryArgs) (document : List (String × Json))
    (vars : NStringMap) : NHttpRequest :=
  sendReq basicAuth .POST path (jsonDocToStr (document ++ varsMember vars)) args

/-- The arguments `username` and `create` of all but `authenticateDevice`. -/
def userArgs (username : String) (create : Bool) : NHttpQueryArgs :=
  optArg "username" (some username) ++ optBoolArg "create" (some create)

def gameCenterDocument (player : GameCenterCredentials) : List (String × Json) :=
  [("player_id", .str player.playerId), ("bundle_id", .str player.bundleId),
   ("timestamp_seconds", .int player.timestampSeconds.toNat), ("salt", .str player.salt),
   ("signature", .str player.signature), ("public_key_url", .str player.publicKeyUrl)]

def authenticateDevice (id : String) (username : Option String) (create : Option Bool)
    (vars : NStringMap) : NHttpRequest :=
  authenticate basicAuth "/v2/account/authenticate/device"
    (optArg "username" username ++ optBoolArg "create" create) [("id", .str id)] vars

def authenticateEmail (email password username : String) (create : Bool) (vars : NStringMap) :
    NHttpRequest :=
  authenticate basicAuth "/v2/account/authenticate/email" (userArgs username create)
    [("email", .str email), ("password", .str password)] vars

def authenticateFacebook (accessToken username : String) (create importFriends : Bool)
    (vars : NStringMap) : NHttpRequest :=
  authenticate basicAuth "/v2/account/authenticate/facebook"
    (userArgs username create ++ optBoolArg "import" (some importFriends))
    [("token", .str accessToken)] vars

def authenticateGoogle (accessToken username : String) (create : Bool) (vars : NStringMap) :
    NHttpRequest :=
  authenticate basicAuth "/v2/account/authenticate/google" (userArgs username create)
    [("token", .str accessToken)] vars

def authenticateGameCenter (player : GameCenterCredentials) (username : String) (create : Bool)
    (vars : NStringMap) : NHttpRequest :=
  authenticate basicAuth "/v2/account/authenticate/gamecenter" (userArgs username create)
    (gameCenterDocument player) vars

def authenticateCustom (id username : String) (create : Bool) (vars : NStringMap) : NHttpRequest :=
  authenticate basicAuth "/v2/account/authenticate/custom" (userArgs username create)
    [("id", .str id)] vars

def authenticateSteam (token username : String) (create : Bool) (vars : NStringMap) : NHttpRequest :=
  authenticate basicAuth "/v2/account/authenticate/steam" (userArgs username create)
    [("token", .str token)] vars

end

/-! ## Accounts -/

section
variable (session : NSession)

/-- The operations that post an account. -/
def postAccount (path : String) (document : List (String × Json)) : NHttpRequest :=
  sendReq session.auth .POST path (jsonDocToStr document)

def linkFacebook (accessToken : String) (importFriends : Option Bool) : NHttpRequest :=
  sendReq session.auth .POST "/v2/account/link/facebook" (jsonDocToStr [("token", .str accessToken)])
    (optBoolArg "import" importFriends)

def linkEmail (email password : String) : NHttpRequest :=
  postAccount session "/v2/account/link/email" [("email", .str email), ("password", .str password)]

def linkDevice (id : String) : NHttpRequest :=
  postAccount session "/v2/account/link/device" [("id", .str id)]

def linkGoogle (accessToken : String) : NHttpRequest :=
  postAccount session "/v2/account/link/google" [("token", .str accessToken)]

def linkGameCenter (player : GameCenterCredentials) : NHttpRequest :=
  postAccount session "/v2/account/link/gamecenter" (gameCenterDocument player)

def linkSteam (token : String) : NHttpRequest :=
  postAccount session "/v2/account/link/steam" [("token", .str token)]

def linkCustom (id : String) : NHttpRequest :=
  postAccount session "/v2/account/link/custom" [("id", .str id)]

def unlinkFacebook (accessToken : String) : NHttpRequest :=
  postAccount session "/v2/account/unlink/facebook" [("token", .str accessToken)]

def unlinkEmail (email password : String) : NHttpRequest :=
  postAccount session "/v2/account/unlink/email" [("email", .str email), ("password", .str password)]

def unlinkGoogle (accessToken : String) : NHttpRequest :=
  postAccount session "/v2/account/unlink/google" [("token", .str accessToken)]

def unlinkGameCenter (player : GameCenterCredentials) : NHttpRequest :=
  postAccount session "/v2/account/unlink/gamecenter" (gameCenterDocument player)

def unlinkSteam (token : String) : NHttpRequest :=
  postAccount session "/v2/account/unlink/steam" [("token", .str token)]

def unlinkDevice (id : String) : NHttpRequest :=
  postAccount session "/v2/account/unlink/device" [("id", .str id)]

def unlinkCustom (id : String) : NHttpRequest :=
  postAccount session "/v2/account/unlink/custom" [("id", .str id)]

def importFacebookFriends (token : String) (reset : Option Bool) : NHttpRequest :=
  sendReq session.auth .POST "/v2/friend/facebook" (jsonDocToStr [("token", .str token)])
    (optBoolArg "reset" reset)

def getAccount : NHttpRequest := sendReq session.auth .GET "/v2/account" ""

def updateAccount (username displayName avatarUrl langTag location timezone : Option String) :
    NHttpRequest :=
  sendReq session.auth .PUT "/v2/account"
    (jsonDocToStr
      (optStringMember "username" username ++ optStringMember "display_name" displayName ++
        optStringMember "avatar_url" avatarUrl ++ optStringMember "lang_tag" langTag ++
        optStringMember "location" location ++ optStringMember "timezone" timezone))

def getUsers (ids usernames facebookIds : List String) : NHttpRequest :=
  sendReq session.auth .GET "/v2/user" ""
    (named "ids" ids ++ named "usernames" usernames ++ named "facebook_ids" facebookIds)

/-! ## Friends -/

def friends (method : NHttpReqMethod) (path : String) (ids usernames : List String) : NHttpRequest :=
  sendReq session.auth method path "" (named "ids" ids ++ named "usernames" usernames)

def addFriends (ids usernames : List String) : NHttpRequest :=
  friends session .POST "/v2/friend" ids usernames

def deleteFriends (ids usernames : List String) : NHttpRequest :=
  friends session .DEL "/v2/friend" ids usernames

def blockFriends (ids usernames : List String) : NHttpRequest :=
  friends session .POST "/v2/friend/block" ids usernames

/-- The lists by `limit`, `state` and `cursor`. -/
def listByState (path : String) (limit : Option Int32) (state : Option NFriendState)
    (cursor : String) : NHttpRequest :=
  sendReq session.auth .GET path ""
    (optInt32Arg "limit" limit ++ stateArg state ++ optArg "cursor" (nonEmpty cursor))

def listFriends (limit : Option Int32) (state : Option NFriendState) (cursor : String) :
    NHttpRequest :=
  listByState session "/v2/friend" limit state cursor

/-! ## Groups -/

def createGroup (name description avatarUrl langTag : String) (isOpen : Bool)
    (maxCount : Option Int32) : NHttpRequest :=
  sendReq session.auth .POST "/v2/group"
    (jsonDocToStr
      ([("name", .str name), ("description", .str description), ("avatar_url", .str avatarUrl),
        ("lang_tag", .str langTag), ("open", .bool isOpen)] ++ optInt32Member "max_count" maxCount))

def deleteGroup (groupId : String) : NHttpRequest :=
  sendReq session.auth .DEL ("/v2/group/" ++ groupId) ""

def groupUsers (groupId action : String) (ids : List String) : NHttpRequest :=
  sendReq session.auth .POST ("/v2/group/" ++ groupId ++ action) "" (named "user_ids" ids)

def addGroupUsers (groupId : String) (ids : List String) : NHttpRequest :=
  groupUsers session groupId "/add" ids

def kickGroupUsers (groupId : String) (ids : List String) : NHttpRequest :=
  groupUsers session groupId "/kick" ids

def promoteGroupUsers (groupId : String) (ids : List String) : NHttpRequest :=
  groupUsers session groupId "/promote" ids

def joinGroup (groupId : String) : NHttpRequest :=
  sendReq session.auth .POST ("/v2/group/" ++ groupId ++ "/join") ""

def leaveGroup (groupId : String) : NHttpRequest :=
  sendReq session.auth .POST ("/v2/group/" ++ groupId ++ "/leave") ""

def listGroupUsers (groupId : String) (limit : Option Int32) (state : Option NFriendState)
    (cursor : String) : NHttpRequest :=
  listByState session ("/v2/group/" ++ groupId ++ "/user") limit state cursor

def listGroups (name : String) (limit : Int32) (cursor : String) : NHttpRequest :=
  sendReq session.auth .GET "/v2/group" ""
    (optArg "name" (nonEmpty name) ++ optArg "cursor" (nonEmpty cursor) ++
      optInt32Arg "limit" (positive limit))

def listUserGroups (userId : String) (limit : Option Int32) (state : Option NFriendState)
    (cursor : String) : NHttpRequest :=
  listByState session ("/v2/user/" ++ userId ++ "/group") limit state cursor

def updateGroup (groupId : String) (name description avatarUrl langTag : Option String)
    (isOpen : Option Bool) : NHttpRequest :=
  sendReq session.auth .PUT ("/v2/group/" ++ groupId)
    (jsonDocToStr
      ([("group_id", .str groupId)] ++ optStringMember "name" name ++
        optStringMember "description" description ++ optStringMember "avatar_url" avatarUrl ++
        optStringMember "lang_tag" langTag ++ optMember "open" (isOpen.map Json.bool)))

/-! ## Leaderboards and tournaments -/

def listLeaderboardRecords (leaderboardId : String) (ownerIds : List String) (limit : Option Int32)
    (cursor : Option String) : NHttpRequest :=
  sendReq session.auth .GET ("/v2/leaderboard/" ++ leaderboardId) ""
    (named "owner_ids" ownerIds ++ optInt32Arg "limit" limit ++ optArg "cursor" cursor)

def listLeaderboardRecordsAroundOwner (leaderboardId ownerId : String) (limit : Option Int32) :
    NHttpRequest :=
  sendReq session.auth .GET ("/v2/leaderboard/" ++ leaderboardId ++ "/owner/" ++ ownerId) ""
    (optInt32Arg "limit" limit)

def writeRecord (method : NHttpReqMethod) (path : String) (score : Int64) (subscore : Option Int64)
    (metadata : Option String) : NHttpRequest :=
  sendReq session.auth method path
    (jsonDocToStr
      ([("score", .str (toString score))] ++
        optMember "subscore" (subscore.map fun n => .str (toString n)) ++
        optStringMember "metadata" metadata))

def writeLeaderboardRecord (leaderboardId : String) (score : Int64) (subscore : Option Int64)
    (metadata : Option String) : NHttpRequest :=
  writeRecord session .POST ("/v2/leaderboard/" ++ leaderboardId) score subscore metadata

def writeTournamentRecord (tournamentId : String) (score : Int64) (subscore : Option Int64)
    (metadata : Option String) : NHttpRequest :=
  writeRecord session .PUT ("/v2/tournament/" ++ tournamentId) score subscore metadata

def deleteLeaderboardRecord (leaderboardId : String) : NHttpRequest :=
  sendReq session.auth .DEL ("/v2/leaderboard/" ++ leaderboardId) ""

def listTournaments (categoryStart categoryEnd startTime endTime : Option UInt32)
    (limit : Option Int32) (cursor : Option String) : NHttpRequest :=
  sendReq session.auth .GET "/v2/tournament" ""
    (optUInt32Arg "category_start" categoryStart ++ optUInt32Arg "category_end" categoryEnd ++
      optUInt32Arg "start_time" startTime ++ optUInt32Arg "end_time" endTime ++
      optInt32Arg "limit" limit ++ optArg "cursor" cursor)

def listTournamentRecords (tournamentId : String) (limit : Option Int32) (cursor : Option String)
    (ownerIds : List String) : NHttpRequest :=
  sendReq session.auth .GET ("/v2/tournament/" ++ tournamentId) ""
    (optInt32Arg "limit" limit ++ optArg "cursor" cursor ++ named "owner_ids" ownerIds)

def listTournamentRecordsAroundOwner (tournamentId ownerId : String) (limit : Option Int32) :
    NHttpRequest :=
  sendReq session.auth .GET ("/v2/tournament/" ++ tournamentId ++ "/owner/" ++ ownerId) ""
    (optInt32Arg "limit" limit)

def joinTournament (tournamentId : String) : NHttpRequest :=
  sendReq session.auth .POST ("/v2/tournament/" ++ tournamentId ++ "/join") ""

/-! ## Matches, notifications, messages -/

def listMatches (minSize maxSize limit : Option Int32) (label : Option String)
    (authoritative : Option Bool) : NHttpRequest :=
  sendReq session.auth .GET "/v2/match" ""
    (optInt32Arg "min_size" minSize ++ optInt32Arg "max_size" maxSize ++ optInt32Arg "limit" limit ++
      optArg "label" label ++ optBoolArg "authoritative" authoritative)

def listNotifications (limit : Option Int32) (cacheableCursor : Option String) : NHttpRequest :=
  sendReq session.auth .GET "/v2/notification" ""
    (optInt32Arg "limit" limit ++ optArg "cursor" cacheableCursor)

def deleteNotifications (notificationIds : List String) : NHttpRequest :=
  sendReq session.auth .DEL "/v2/notification" "" (named "ids" notificationIds)

def listChannelMessages (channelId : String) (limit : Option Int32) (cursor : Option String)
    (forward : Option Bool) : NHttpRequest :=
  sendReq session.auth .GET ("/v2/channel/" ++ channelId) ""
    (optInt32Arg "limit" limit ++ optArg "cursor" cursor ++ optBoolArg "forward" forward)

/-! ## Storage -/

def listStorageObjects (collection : String) (limit : Option Int32) (cursor : Option String) :
    NHttpRequest :=
  sendReq session.auth .GET ("/v2/storage/" ++ collection) ""
    (optInt32Arg "limit" limit ++ optArg "cursor" cursor)

def listUsersStorageObjects (collection userId : String) (limit : Option Int32)
    (cursor : Option String) : NHttpRequest :=
  sendReq session.auth .GET ("/v2/storage/" ++ collection) ""
    (optArg "user_id" (some userId) ++ optInt32Arg "limit" limit ++ optArg "cursor" cursor)

def writeObject (obj : NStorageObjectWrite) : List (String × Json) :=
  [("collection", .str obj.collection), ("key", .str obj.key), ("value", .str obj.value),
   ("version", .str obj.version)] ++
    optInt32Member "permission_read" (obj.permissionRead.map NStoragePermissionRead.toInt32) ++
    optInt32Member "permission_write" (obj.permissionWrite.map NStoragePermissionWrite.toInt32)

def readObjectId (obj : NReadStorageObjectId) : List (String × Json) :=
  [("collection", .str obj.collection), ("key", .str obj.key), ("user_id", .str obj.userId)]

def deleteObjectId (obj : NDeleteStorageObjectId) : List (String × Json) :=
  [("collection", .str obj.collection), ("key", .str obj.key), ("version", .str obj.version)]

def writeStorageObjects (objects : List NStorageObjectWrite) : NHttpRequest :=
  sendReq session.auth .PUT "/v2/storage"
    (jsonDocToStr [("objects", .arr (objects.map fun obj => .obj (writeObject obj)))])

def readStorageObjects (objectIds : List NReadStorageObjectId) : NHttpRequest :=
  sendReq session.auth .POST "/v2/storage"
    (jsonDocToStr [("object_ids", .arr (objectIds.map fun obj => .obj (readObjectId obj)))])

def deleteStorageObjects (objectIds : List NDeleteStorageObjectId) : NHttpRequest :=
  sendReq session.auth .PUT "/v2/storage/delete"
    (jsonDocToStr [("object_ids", .arr (objectIds.map fun obj => .obj (deleteObjectId obj)))])

end

/-! ## RPC -/

def sendRpc (auth id : String) (payload : Option String) (args : NHttpQueryArgs) : NHttpRequest :=
  match payload.bind nonEmpty with
  | some payload => sendReq auth .POST ("/v2/rpc/" ++ id) (text (.str payload)) args
  | none => sendReq auth .GET ("/v2/rpc/" ++ id) "" (args ++ optArg "id" (some id))

def rpc (session : NSession) (id : String) (payload : Option String) : NHttpRequest :=
  sendRpc session.auth id payload []

/-- No authorization: the key is a query argument. -/
def rpcWithKey (httpKey id : String) (payload : Option String) : NHttpRequest :=
  sendRpc "" id payload (optArg "http_key" (some httpKey))

/-- The request of an operation; without a session, `listOwnGroups` sends none. -/
def request (basicAuth : String) : ClientOp → Option NHttpRequest
  | .authenticateDevice id username create vars =>
    some (authenticateDevice basicAuth id username create vars)
  | .authenticateEmail email password username create vars =>
    some (authenticateEmail basicAuth email password username create vars)
  | .authenticateFacebook accessToken username create importFriends vars =>
    some (authenticateFacebook basicAuth accessToken username create importFriends vars)
  | .authenticateGoogle accessToken username create vars =>
    some (authenticateGoogle basicAuth accessToken username create vars)
  | .authenticateGameCenter player username create vars =>
    some (authenticateGameCenter basicAuth player username create vars)
  | .authenticateCustom id username create vars =>
    some (authenticateCustom basicAuth id username create vars)
  | .authenticateSteam token username create vars =>
    some (authenticateSteam basicAuth token username create vars)
  | .linkFacebook session accessToken importFriends =>
    some (linkFacebook session accessToken importFriends)
  | .linkEmail session email password => some (linkEmail session email password)
  | .linkDevice session id => some (linkDevice session id)
  | .linkGoogle session accessToken => some (linkGoogle session accessToken)
  | .linkGameCenter session player => some (linkGameCenter session player)
  | .linkSteam session token => some (linkSteam session token)
  | .linkCustom session id => some (linkCustom session id)
  | .unlinkFacebook session accessToken => some (unlinkFacebook session accessToken)
  | .unlinkEmail session email password => some (unlinkEmail session email password)
  | .unlinkGoogle session accessToken => some (unlinkGoogle session accessToken)
  | .unlinkGameCenter session player => some (unlinkGameCenter session player)
  | .unlinkSteam session token => some (unlinkSteam session token)
  | .unlinkDevice session id => some (unlinkDevice session id)
  | .unlinkCustom session id => some (unlinkCustom session id)
  | .importFacebookFriends session token reset => some (importFacebookFriends session token reset)
  | .getAccount session => some (getAccount session)
  | .updateAccount session username displayName avatarUrl langTag location timezone =>
    some (updateAccount session username displayName avatarUrl langTag location timezone)
  | .getUsers session ids usernames facebookIds => some (getUsers session ids usernames facebookIds)
  | .addFriends session ids usernames => some (addFriends session ids usernames)
  | .deleteFriends session ids usernames => some (deleteFriends session ids usernames)
  | .blockFriends session ids usernames => some (blockFriends session ids usernames)
  | .listFriends session limit state cursor => some (listFriends session limit state cursor)
  | .createGroup session name description avatarUrl langTag isOpen maxCount =>
    some (createGroup session name description avatarUrl langTag isOpen maxCount)
  | .deleteGroup session groupId => some (deleteGroup session groupId)
  | .addGroupUsers session groupId ids => some (addGroupUsers session groupId ids)
  | .listGroupUsers session groupId limit state cursor =>
    some (listGroupUsers session groupId limit state cursor)
  | .kickGroupUsers session groupId ids => some (kickGroupUsers session groupId ids)
  | .joinGroup session groupId => some (joinGroup session groupId)
  | .leaveGroup session groupId => some (leaveGroup session groupId)
  | .listGroups session name limit cursor => some (listGroups session name limit cursor)
  | .listOwnGroups session limit state cursor =>
    session.map fun session => listUserGroups session session.userId limit state cursor
  | .listUserGroups session userId limit state cursor =>
    some (listUserGroups session userId limit state cursor)
  | .promoteGroupUsers session groupId ids => some (promoteGroupUsers session groupId ids)
  | .updateGroup session groupId name description avatarUrl langTag isOpen =>
    some (updateGroup session groupId name description avatarUrl langTag isOpen)
  | .listLeaderboardRecords session leaderboardId ownerIds limit cursor =>
    some (listLeaderboardRecords session leaderboardId ownerIds limit cursor)
  | .listLeaderboardRecordsAroundOwner session leaderboardId ownerId limit =>
    some (listLeaderboardRecordsAroundOwner session leaderboardId ownerId limit)
  | .writeLeaderboardRecord session leaderboardId score subscore metadata =>
    some (writeLeaderboardRecord session leaderboardId score subscore metadata)
  | .writeTournamentRecord session tournamentId score subscore metadata =>
    some (writeTournamentRecord session tournamentId score subscore metadata)
  | .deleteLeaderboardRecord session leaderboardId =>
    some (deleteLeaderboardRecord session leaderboardId)
  | .listMatches session minSize maxSize limit label authoritative =>
    some (listMatches session minSize maxSize limit label authoritative)
  | .listNotifications session limit cacheableCursor =>
    some (listNotifications session limit cacheableCursor)
  | .deleteNotifications session notificationIds => some (deleteNotifications session notificationIds)
  | .listChannelMessages session channelId limit cursor forward =>
    some (listChannelMessages session channelId limit cursor forward)
  | .listTournaments session categoryStart categoryEnd startTime endTime limit cursor =>
    some (listTournaments session categoryStart categoryEnd startTime endTime limit cursor)
  | .listTournamentRecords session tournamentId limit cursor ownerIds =>
    some (listTournamentRecords session tournamentId limit cursor ownerIds)
  | .listTournamentRecordsAroundOwner session tournamentId ownerId limit =>
    some (listTournamentRecordsAroundOwner session tournamentId ownerId limit)
  | .joinTournament session tournamentId => some (joinTournament session tournamentId)
  | .listStorageObjects session collection limit cursor =>
    some (listStorageObjects session collection limit cursor)
  | .listUsersStorageObjects session collection userId limit cursor =>
    some (listUsersStorageObjects session collection userId limit cursor)
  | .writeStorageObjects session objects => some (writeStorageObjects session objects)
  | .readStorageObjects session objectIds => some (readStorageObjects session objectIds)
  | .deleteStorageObjects session objectIds => some (deleteStorageObjects session objectIds)
  | .rpc session id payload => some (rpc session id payload)
  | .rpcWithKey httpKey id payload => some (rpcWithKey httpKey id payload)

end RestClient

end NakamaCpp.Rest
