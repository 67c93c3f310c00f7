import NakamaCpp.CApi.Session
import NakamaCpp.CApi.Data

/-!
# `NClientWrapper` over the C interface

A request goes from `NClientWrapper` of include/nakama-cpp-c-wrapper/Impl/NClientWrapperImpl.h
through a function of src/nakama-c/NClientC.cpp to the wrapped `NClientInterface`.  The two
layers are written by hand for each operation; where one of them has no form for an absent
optional, or takes zero for one, the wrapped client receives another request.

    the texts have no NUL, the lists are countable, the session is alive
      →  (received sessions cSession op = some op ↔ op.CrossesIntact)          (received_iff)
-/

namespace NakamaCpp.CApi

open Rest CInterop Transition

/-! ## C values -/

structure SNStorageObjectWrite where
  collection : CStr
  key : CStr
  value : CStr
  version : CStr
  permissionRead : Option Int32
  permissionWrite : Option Int32

structure SNReadStorageObjectId where
  collection : CStr
  key : CStr
  userId : CStr

structure SNDeleteStorageObjectId where
  collection : CStr
  key : CStr
  version : CStr

/-- The arguments that identify a player to Game Center. -/
structure SGameCenterCredentials where
  playerId : CStr
  bundleId : CStr
  timestampSeconds : NTimestamp
  salt : CStr
  signature : CStr
  publicKeyUrl : CStr

/-- A call of a function of NClientC.cpp that the wrapper makes, without the callbacks; a
pointer that may be null is an `Option`. -/
inductive NClientCall
  | authenticateDevice (id : CStr) (username : Option CStr) (create : Bool) (vars : CStringMap)
  | authenticateEmail (email password : CStr) (username : Option CStr) (create : Bool)
      (vars : CStringMap)
  | authenticateFacebook (accessToken : CStr) (username : Option CStr) (create importFriends : Bool)
      (vars : CStringMap)
  | authenticateGoogle (accessToken : CStr) (username : Option CStr) (create : Bool)
      (vars : CStringMap)
  | authenticateGameCenter (player : SGameCenterCredentials) (username : Option CStr) (create : Bool)
      (vars : CStringMap)
  | authenticateCustom (id : CStr) (username : Option CStr) (create : Bool) (vars : CStringMap)
  | authenticateSteam (token : CStr) (username : Option CStr) (create : Bool) (vars : CStringMap)
  | linkFacebook (session : CSession) (accessToken : CStr) (importFriends : Bool)
  | linkEmail (session : CSession) (email password : CStr)
  | linkDevice (session : CSession) (id : CStr)
  | linkGoogle (session : CSession) (accessToken : CStr)
  | linkGameCenter (session : CSession) (player : SGameCenterCredentials)
  | linkSteam (session : CSession) (token : CStr)
  | linkCustom (session : CSession) (id : CStr)
  | unlinkFacebook (session : CSession) (accessToken : CStr)
  | unlinkEmail (session : CSession) (email password : CStr)
  | unlinkGoogle (session : CSession) (accessToken : CStr)
  | unlinkGameCenter (session : CSession) (player : SGameCenterCredentials)
  | unlinkSteam (session : CSession) (token : CStr)
  | unlinkDevice (session : CSession) (id : CStr)
  | unlinkCustom (session : CSession) (id : CStr)
  | importFacebookFriends (session : CSession) (token : CStr) (reset : Bool)
  | getAccount (session : CSession)
  | updateAccount (session : CSession)
      (username displayName avatarUrl langTag location timezone : Option CStr)
  | getUsers (session : CSession) (ids usernames facebookIds : CArray CStr)
  | addFriends (session : CSession) (ids usernames : CArray CStr)
  | deleteFriends (session : CSession) (ids usernames : CArray CStr)
  | blockFriends (session : CSession) (ids usernames : CArray CStr)
  | listFriends (session : CSession) (limit state : Option Int32) (cursor : Option CStr)
  | createGroup (session : CSession) (name description avatarUrl langTag : CStr) (isOpen : Bool)
      (maxCount : Option Int32)
  | deleteGroup (session : CSession) (groupId : CStr)
  | addGroupUsers (session : CSession) (groupId : CStr) (ids : CArray CStr)
  | listGroupUsers (session : CSession) (groupId : CStr) (limit state : Option Int32)
      (cursor : Option CStr)
  | kickGroupUsers (session : CSession) (groupId : CStr) (ids : CArray CStr)
  | joinGroup (session : CSession) (groupId : CStr)
  | leaveGroup (session : CSession) (groupId : CStr)
  | listGroups (session : CSession) (name : CStr) (limit : Option Int32) (cursor : Option CStr)
  | listUserGroups (session : CSession) (userId : Option CStr) (limit state : Option Int32)
      (cursor : Option CStr)
  | promoteGroupUsers (session : CSession) (groupId : CStr) (ids : CArray CStr)
  | updateGroup (session : CSession) (groupId : CStr)
      (name description avatarUrl langTag : Option CStr) (isOpen : Option Bool)
  | listLeaderboardRecords (session : CSession) (leaderboardId : CStr) (ownerIds : CArray CStr)
      (limit : Int32) (cursor : Option CStr)
  | listLeaderboardRecordsAroundOwner (session : CSession) (leaderboardId ownerId : CStr)
      (limit : Int32)
  | writeLeaderboardRecord (session : CSession) (leaderboardId : CStr) (score : Int64)
      (subscore : Option Int64) (metadata : Option CStr)
  | writeTournamentRecord (session : CSession) (tournamentId : CStr) (score : Int64)
      (subscore : Option Int64) (metadata : Option CStr)
  | deleteLeaderboardRecord (session : CSession) (leaderboardId : CStr)
  | listMatches (session : CSession) (minSize maxSize limit : Int32) (label : Option CStr)
      (authoritative : Bool)
  | listNotifications (session : CSession) (limit : Int32) (cacheableCursor : Option CStr)
  | deleteNotifications (session : CSession) (notificationIds : CArray CStr)
  | listChannelMessages (session : CSession) (channelId : CStr) (limit : Int32)
      (cursor : Option CStr) (forward : Bool)
  | listTournaments (session : CSession)
      (categoryStart categoryEnd startTime endTime : Option UInt32) (limit : Int32)
      (cursor : Option CStr)
  | listTournamentRecords (session : CSession) (tournamentId : CStr) (limit : Int32)
      (cursor : Option CStr) (ownerIds : CArray CStr)
  | listTournamentRecordsAroundOwner (session : CSession) (tournamentId ownerId : CStr)
      (limit : Int32)
  | joinTournament (session : CSession) (tournamentId : CStr)
  | listStorageObjects (session : CSession) (collection : CStr) (limit : Int32)
      (cursor : Option CStr)
  | listUsersStorageObjects (session : CSession) (collection userId : CStr) (limit : Int32)
      (cursor : Option CStr)
  | writeStorageObjects (session : CSession) (objects : CArray SNStorageObjectWrite)
  | readStorageObjects (session : CSession) (objectIds : CArray SNReadStorageObjectId)
  | deleteStorageObjects (session : CSession) (objectIds : CArray SNDeleteStorageObjectId)
  | rpc (session : CSession) (id : CStr) (payload : Option CStr)
  | rpcWithHttpKey (httpKey id : CStr) (payload : Option CStr)

/-! ## The wrapper -/

/-- `s ? s->c_str() : nullptr`. -/
abbrev optCStr (s : Option String) : Option CStr := s.map CStr.ofString

/-- `s.empty() ? nullptr : s.c_str()`. -/
def orNull (s : String) : Option CStr := if s.isEmpty then none else some (cStr s)

/-- An array of the texts' `c_str()`, and their number. -/
abbrev cStrs (l : List String) : CArray CStr := .ofList (l.map CStr.ofString)

/-- `toCNStringMap`. -/
def toCNStringMap (map : NStringMap) : CStringMap :=
  if map.isEmpty then none else some (writeMap (fun v => (cStr v).text) map)

def cCredentials (player : GameCenterCredentials) : SGameCenterCredentials where
  playerId := cStr player.playerId
  bundleId := cStr player.bundleId
  timestampSeconds := player.timestampSeconds
  salt := cStr player.salt
  signature := cStr player.signature
  publicKeyUrl := cStr player.publicKeyUrl

/-- `assign` of NDataHelperWrapperImpl.h, for an object to write. -/
def cStorageObjectWrite (object : NStorageObjectWrite) : SNStorageObjectWrite where
  collection := cStr object.collection
  key := cStr object.key
  value := cStr object.value
  version := cStr object.version
  permissionRead := object.permissionRead.map NStoragePermissionRead.toInt32
  permissionWrite := object.permissionWrite.map NStoragePermissionWrite.toInt32

def cReadStorageObjectId (objectId : NReadStorageObjectId) : SNReadStorageObjectId where
  collection := cStr objectId.collection
  key := cStr objectId.key
  userId := cStr objectId.userId

def cDeleteStorageObjectId (objectId : NDeleteStorageObjectId) : SNDeleteStorageObjectId where
  collection := cStr objectId.collection
  key := cStr objectId.key
  version := cStr objectId.version

namespace NClientWrapper

/-- `listUserGroups` with a user id. -/
def listUserGroups (session : CSession) (userId : String) (limit : Option Int32)
    (state : Option NFriendState) (cursor : String) : NClientCall :=
  .listUserGroups session (orNull userId) limit (state.map NFriendState.toInt32) (orNull cursor)

/-- The C function that an operation calls, where the session that it is given wraps `session`.
`none` stands for `getCSession` of a null session. -/
def call (session : CSession) : ClientOp → Option NClientCall
  | .authenticateDevice id username create vars =>
    some (.authenticateDevice (cStr id) (optCStr username) (create.getD false) (toCNStringMap vars))
  | .authenticateEmail email password username create vars =>
    some (.authenticateEmail (cStr email) (cStr password) (orNull username) create
      (toCNStringMap vars))
  | .authenticateFacebook accessToken username create importFriends vars =>
    some (.authenticateFacebook (cStr accessToken) (orNull username) create importFriends
      (toCNStringMap vars))
  | .authenticateGoogle accessToken username create vars =>
    some (.authenticateGoogle (cStr accessToken) (orNull username) create (toCNStringMap vars))
  | .authenticateGameCenter player username create vars =>
    some (.authenticateGameCenter (cCredentials player) (orNull username) create
      (toCNStringMap vars))
  | .authenticateCustom id username create vars =>
    some (.authenticateCustom (cStr id) (orNull username) create (toCNStringMap vars))
  | .authenticateSteam token username create vars =>
    some (.authenticateSteam (cStr token) (orNull username) create (toCNStringMap vars))
  | .linkFacebook _ accessToken importFriends =>
    some (.linkFacebook session (cStr accessToken) (importFriends.getD false))
  | .linkEmail _ email password => some (.linkEmail session (cStr email) (cStr password))
  | .linkDevice _ id => some (.linkDevice session (cStr id))
  | .linkGoogle _ accessToken => some (.linkGoogle session (cStr accessToken))
  | .linkGameCenter _ player => some (.linkGameCenter session (cCredentials player))
  | .linkSteam _ token => some (.linkSteam session (cStr token))
  | .linkCustom _ id => some (.linkCustom session (cStr id))
  | .unlinkFacebook _ accessToken => some (.unlinkFacebook session (cStr accessToken))
  | .unlinkEmail _ email password => some (.unlinkEmail session (cStr email) (cStr password))
  | .unlinkGoogle _ accessToken => some (.unlinkGoogle session (cStr accessToken))
  | .unlinkGameCenter _ player => some (.unlinkGameCenter session (cCredentials player))
  | .unlinkSteam _ token => some (.unlinkSteam session (cStr token))
  | .unlinkDevice _ id => some (.unlinkDevice session (cStr id))
  | .unlinkCustom _ id => some (.unlinkCustom session (cStr id))
  | .importFacebookFriends _ token reset =>
    some (.importFacebookFriends session (cStr token) (reset.getD false))
  | .getAccount _ => some (.getAccount session)
  | .updateAccount _ username displayName avatarUrl langTag location timezone =>
    some (.updateAccount session (optCStr username) (optCStr displayName) (optCStr avatarUrl)
      (optCStr langTag) (optCStr location) (optCStr timezone))
  | .getUsers _ ids usernames facebookIds =>
    some (.getUsers session (cStrs ids) (cStrs usernames) (cStrs facebookIds))
  | .addFriends _ ids usernames => some (.addFriends session (cStrs ids) (cStrs usernames))
  | .deleteFriends _ ids usernames => some (.deleteFriends session (cStrs ids) (cStrs usernames))
  | .blockFriends _ ids usernames => some (.blockFriends session (cStrs ids) (cStrs usernames))
  | .listFriends _ limit state cursor =>
    some (.listFriends session limit (state.map NFriendState.toInt32) (orNull cursor))
  | .createGroup _ name description avatarUrl langTag isOpen maxCount =>
    some (.createGroup session (cStr name) (cStr description) (cStr avatarUrl) (cStr langTag) isOpen
      maxCount)
  | .deleteGroup _ groupId => some (.deleteGroup session (cStr groupId))
  | .addGroupUsers _ groupId ids => some (.addGroupUsers session (cStr groupId) (cStrs ids))
  | .listGroupUsers _ groupId limit state cursor =>
    some (.listGroupUsers session (cStr groupId) limit (state.map NFriendState.toInt32)
      (orNull cursor))
  | .kickGroupUsers _ groupId ids => some (.kickGroupUsers session (cStr groupId) (cStrs ids))
  | .joinGroup _ groupId => some (.joinGroup session (cStr groupId))
  | .leaveGroup _ groupId => some (.leaveGroup session (cStr groupId))
  | .listGroups _ name limit cursor =>
    some (.listGroups session (cStr name) (some limit) (orNull cursor))
  | .listOwnGroups given limit state cursor =>
    given.map fun _ => listUserGroups session "" limit state cursor
  | .listUserGroups _ userId limit state cursor =>
    some (listUserGroups session userId limit state cursor)
  | .promoteGroupUsers _ groupId ids => some (.promoteGroupUsers session (cStr groupId) (cStrs ids))
  | .updateGroup _ groupId name description avatarUrl langTag isOpen =>
    some (.updateGroup session (cStr groupId) (optCStr name) (optCStr description)
      (optCStr avatarUrl) (optCStr langTag) isOpen)
  | .listLeaderboardRecords _ leaderboardId ownerIds limit cursor =>
    some (.listLeaderboardRecords session (cStr leaderboardId) (cStrs ownerIds) (limit.getD 0)
      (optCStr cursor))
  | .listLeaderboardRecordsAroundOwner _ leaderboardId ownerId limit =>
    some (.listLeaderboardRecordsAroundOwner session (cStr leaderboardId) (cStr ownerId)
      (limit.getD 0))
  | .writeLeaderboardRecord _ leaderboardId score subscore metadata =>
    some (.writeLeaderboardRecord session (cStr leaderboardId) score subscore (optCStr metadata))
  | .writeTournamentRecord _ tournamentId score subscore metadata =>
    some (.writeTournamentRecord session (cStr tournamentId) score subscore (optCStr metadata))
  | .deleteLeaderboardRecord _ leaderboardId =>
    some (.deleteLeaderboardRecord session (cStr leaderboardId))
  | .listMatches _ minSize maxSize limit label authoritative =>
    some (.listMatches session (minSize.getD 0) (maxSize.getD 0) (limit.getD 0) (optCStr label)
      (authoritative.getD false))
  | .listNotifications _ limit cacheableCursor =>
    some (.listNotifications session (limit.getD 0) (optCStr cacheableCursor))
  | .deleteNotifications _ notificationIds =>
    some (.deleteNotifications session (cStrs notificationIds))
  | .listChannelMessages _ channelId limit cursor forward =>
    some (.listChannelMessages session (cStr channelId) (limit.getD 0) (optCStr cursor)
      (forward.getD true))
  | .listTournaments _ categoryStart categoryEnd startTime endTime limit cursor =>
    some (.listTournaments session categoryStart categoryEnd startTime endTime (limit.getD 0)
      (optCStr cursor))
  | .listTournamentRecords _ tournamentId limit cursor ownerIds =>
    some (.listTournamentRecords session (cStr tournamentId) (limit.getD 0) (optCStr cursor)
      (cStrs ownerIds))
  | .listTournamentRecordsAroundOwner _ tournamentId ownerId limit =>
    some (.listTournamentRecordsAroundOwner session (cStr tournamentId) (cStr ownerId)
      (limit.getD 0))
  | .joinTournament _ tournamentId => some (.joinTournament session (cStr tournamentId))
  | .listStorageObjects _ collection limit cursor =>
    some (.listStorageObjects session (cStr collection) (limit.getD 0) (optCStr cursor))
  | .listUsersStorageObjects _ collection userId limit cursor =>
    some (.listUsersStorageObjects session (cStr collection) (cStr userId) (limit.getD 0)
      (optCStr cursor))
  | .writeStorageObjects _ objects =>
    some (.writeStorageObjects session (.alloc cStorageObjectWrite objects))
  | .readStorageObjects _ objectIds =>
    some (.readStorageObjects session (.alloc cReadStorageObjectId objectIds))
  | .deleteStorageObjects _ objectIds =>
    some (.deleteStorageObjects session (.ofList (objectIds.map cDeleteStorageObjectId)))
  | .rpc _ id payload => some (.rpc session (cStr id) (optCStr payload))
  | .rpcWithKey httpKey id payload =>
    some (.rpcWithHttpKey (cStr httpKey) (cStr id) (optCStr payload))

end NClientWrapper

/-! ## The C functions -/

/-- `s ? s : ""`. -/
def orEmpty (s : Option CStr) : String := (s.map CStr.text).getD ""

/-- `s ? optional<string>(s) : nullopt`. -/
abbrev optText (s : Option CStr) : Option String := s.map CStr.text

/-- `assign` of DataHelperC.cpp, for strings. -/
abbrev texts (l : CArray CStr) : List String := l.toList.map CStr.text

/-- `n ? optional<int32_t>(n) : nullopt`. -/
def unlessZero (n : Int32) : Option Int32 := if n = 0 then none else some n

/-- `n ? optional<uint32_t>(n) : nullopt`, given as an `optional<int32_t>`. -/
def unsignedUnlessZero (n : Int32) : Option Int32 :=
  (unlessZero n).map fun n => n.toUInt32.toInt32

/-- `cppVars ? *cppVars : NStringMap()`. -/
def cppVars (vars : CStringMap) : NStringMap := vars.getD ∅

def cppCredentials (player : SGameCenterCredentials) : GameCenterCredentials where
  playerId := player.playerId.text
  bundleId := player.bundleId.text
  timestampSeconds := player.timestampSeconds
  salt := player.salt.text
  signature := player.signature.text
  publicKeyUrl := player.publicKeyUrl.text

/-- The casts of numbers back to enumerators. -/
def castFriendState (n : Int32) : Option NFriendState :=
  [NFriendState.friend, .inviteSent, .inviteReceived, .blocked].find? fun e => e.toInt32 == n

def castPermissionRead (n : Int32) : Option NStoragePermissionRead :=
  [NStoragePermissionRead.noRead, .ownerRead, .publicRead].find? fun e => e.toInt32 == n

def castPermissionWrite (n : Int32) : Option NStoragePermissionWrite :=
  [NStoragePermissionWrite.noWrite, .ownerWrite].find? fun e => e.toInt32 == n

/-- `assign` of DataHelperC.cpp, for an object to write. -/
def cppStorageObjectWrite (object : SNStorageObjectWrite) : Option NStorageObjectWrite := do
  let permissionRead ← object.permissionRead.mapM castPermissionRead
  let permissionWrite ← object.permissionWrite.mapM castPermissionWrite
  return {
    collection := object.collection.text
    key := object.key.text
    value := object.value.text
    version := object.version.text
    permissionRead
    permissionWrite }

def cppReadStorageObjectId (objectId : SNReadStorageObjectId) : NReadStorageObjectId where
  collection := objectId.collection.text
  key := objectId.key.text
  userId := objectId.userId.text

def cppDeleteStorageObjectId (objectId : SNDeleteStorageObjectId) : NDeleteStorageObjectId where
  collection := objectId.collection.text
  key := objectId.key.text
  version := objectId.version.text

/-- The operation that a C function calls on the wrapped client; `none` when it is given a
session that is not in `g_sessions`, or a number that is no enumerator. -/
def NClientCall.run (sessions : Sessions) : NClientCall → Option ClientOp
  | .authenticateDevice id username create vars =>
    some (.authenticateDevice id.text (optText username) (some create) (cppVars vars))
  | .authenticateEmail email password username create vars =>
    some (.authenticateEmail email.text password.text (orEmpty username) create (cppVars vars))
  | .authenticateFacebook accessToken username create importFriends vars =>
    some (.authenticateFacebook accessToken.text (orEmpty username) create importFriends
      (cppVars vars))
  | .authenticateGoogle accessToken username create vars =>
    some (.authenticateGoogle accessToken.text (orEmpty username) create (cppVars vars))
  | .authenticateGameCenter player username create vars =>
    some (.authenticateGameCenter (cppCredentials player) (orEmpty username) create (cppVars vars))
  | .authenticateCustom id username create vars =>
    some (.authenticateCustom id.text (orEmpty username) create (cppVars vars))
  | .authenticateSteam token username create vars =>
    some (.authenticateSteam token.text (orEmpty username) create (cppVars vars))
  | .linkFacebook session accessToken importFriends => do
    return .linkFacebook (← getSession sessions session) accessToken.text (some importFriends)
  | .linkEmail session email password => do
    return .linkEmail (← getSession sessions session) email.text password.text
  | .linkDevice session id => do return .linkDevice (← getSession sessions session) id.text
  | .linkGoogle session accessToken => do
    return .linkGoogle (← getSession sessions session) accessToken.text
  | .linkGameCenter session player => do
    return .linkGameCenter (← getSession sessions session) (cppCredentials player)
  | .linkSteam session token => do return .linkSteam (← getSession sessions session) token.text
  | .linkCustom session id => do return .linkCustom (← getSession sessions session) id.text
  | .unlinkFacebook session accessToken => do
    return .unlinkFacebook (← getSession sessions session) accessToken.text
  | .unlinkEmail session email password => do
    return .unlinkEmail (← getSession sessions session) email.text password.text
  | .unlinkGoogle session accessToken => do
    return .unlinkGoogle (← getSession sessions session) accessToken.text
  | .unlinkGameCenter session player => do
    return .unlinkGameCenter (← getSession sessions session) (cppCredentials player)
  | .unlinkSteam session token => do return .unlinkSteam (← getSession sessions session) token.text
  | .unlinkDevice session id => do return .unlinkDevice (← getSession sessions session) id.text
  | .unlinkCustom session id => do return .unlinkCustom (← getSession sessions session) id.text
  | .importFacebookFriends session token reset => do
    return .importFacebookFriends (← getSession sessions session) token.text (some reset)
  | .getAccount session => do return .getAccount (← getSession sessions session)
  | .updateAccount session username displayName avatarUrl langTag location timezone => do
    return .updateAccount (← getSession sessions session) (optText username) (optText displayName)
      (optText avatarUrl) (optText langTag) (optText location) (optText timezone)
  | .getUsers session ids usernames facebookIds => do
    return .getUsers (← getSession sessions session) (texts ids) (texts usernames)
      (texts facebookIds)
  | .addFriends session ids usernames => do
    return .addFriends (← getSession sessions session) (texts ids) (texts usernames)
  | .deleteFriends session ids usernames => do
    return .deleteFriends (← getSession sessions session) (texts ids) (texts usernames)
  | .blockFriends session ids usernames => do
    return .blockFriends (← getSession sessions session) (texts ids) (texts usernames)
  | .listFriends session limit state cursor => do
    return .listFriends (← getSession sessions session) limit (← state.mapM castFriendState)
      (orEmpty cursor)
  | .createGroup session name description avatarUrl langTag isOpen maxCount => do
    return .createGroup (← getSession sessions session) name.text description.text avatarUrl.text
      langTag.text isOpen maxCount
  | .deleteGroup session groupId => do
    return .deleteGroup (← getSession sessions session) groupId.text
  | .addGroupUsers session groupId ids => do
    return .addGroupUsers (← getSession sessions session) groupId.text (texts ids)
  | .listGroupUsers session groupId limit state cursor => do
    return .listGroupUsers (← getSession sessions session) groupId.text limit
      (← state.mapM castFriendState) (orEmpty cursor)
  | .kickGroupUsers session groupId ids => do
    return .kickGroupUsers (← getSession sessions session) groupId.text (texts ids)
  | .joinGroup session groupId => do return .joinGroup (← getSession sessions session) groupId.text
  | .leaveGroup session groupId => do
    return .leaveGroup (← getSession sessions session) groupId.text
  | .listGroups session name limit cursor => do
    return .listGroups (← getSession sessions session) name.text (limit.getD 0) (orEmpty cursor)
  | .listUserGroups session userId limit state cursor => do
    let session ← getSession sessions session
    return .listUserGroups session ((optText userId).getD session.userId) limit
      (← state.mapM castFriendState) (orEmpty cursor)
  | .promoteGroupUsers session groupId ids => do
    return .promoteGroupUsers (← getSession sessions session) groupId.text (texts ids)
  | .updateGroup session groupId name description avatarUrl langTag isOpen => do
    return .updateGroup (← getSession sessions session) groupId.text (optText name)
      (optText description) (optText avatarUrl) (optText langTag) isOpen
  | .listLeaderboardRecords session leaderboardId ownerIds limit cursor => do
    return .listLeaderboardRecords (← getSession sessions session) leaderboardId.text
      (texts ownerIds) (some limit) (some (orEmpty cursor))
  | .listLeaderboardRecordsAroundOwner session leaderboardId ownerId limit => do
    return .listLeaderboardRecordsAroundOwner (← getSession sessions session) leaderboardId.text
      ownerId.text (unlessZero limit)
  | .writeLeaderboardRecord session leaderboardId score subscore metadata => do
    return .writeLeaderboardRecord (← getSession sessions session) leaderboardId.text score subscore
      (optText metadata)
  | .writeTournamentRecord session tournamentId score subscore metadata => do
    return .writeTournamentRecord (← getSession sessions session) tournamentId.text score subscore
      (optText metadata)
  | .deleteLeaderboardRecord session leaderboardId => do
    return .deleteLeaderboardRecord (← getSession sessions session) leaderboardId.text
  | .listMatches session minSize maxSize limit label authoritative => do
    return .listMatches (← getSession sessions session) (unlessZero minSize) (unlessZero maxSize)
      (unlessZero limit) (optText label) (some authoritative)
  | .listNotifications session limit cacheableCursor => do
    return .listNotifications (← getSession sessions session) (unsignedUnlessZero limit)
      (optText cacheableCursor)
  | .deleteNotifications session notificationIds => do
    return .deleteNotifications (← getSession sessions session) (texts notificationIds)
  | .listChannelMessages session channelId limit cursor forward => do
    return .listChannelMessages (← getSession sessions session) channelId.text
      (unsignedUnlessZero limit) (optText cursor) (some forward)
  | .listTournaments session categoryStart categoryEnd startTime endTime limit cursor => do
    return .listTournaments (← getSession sessions session) categoryStart categoryEnd startTime
      endTime (some limit) (optText cursor)
  | .listTournamentRecords session tournamentId limit cursor ownerIds => do
    return .listTournamentRecords (← getSession sessions session) tournamentId.text (some limit)
      (optText cursor) (texts ownerIds)
  | .listTournamentRecordsAroundOwner session tournamentId ownerId limit => do
    return .listTournamentRecordsAroundOwner (← getSession sessions session) tournamentId.text
      ownerId.text (some limit)
  | .joinTournament session tournamentId => do
    return .joinTournament (← getSession sessions session) tournamentId.text
  | .listStorageObjects session collection limit cursor => do
    return .listStorageObjects (← getSession sessions session) collection.text (some limit)
      (some (orEmpty cursor))
  | .listUsersStorageObjects session collection userId limit cursor => do
    return .listUsersStorageObjects (← getSession sessions session) collection.text userId.text
      (some limit) (some (orEmpty cursor))
  | .writeStorageObjects session objects => do
    return .writeStorageObjects (← getSession sessions session)
      (← objects.toList.mapM cppStorageObjectWrite)
  | .readStorageObjects session objectIds => do
    return .readStorageObjects (← getSession sessions session)
      (objectIds.toList.map cppReadStorageObjectId)
  | .deleteStorageObjects session objectIds => do
    return .deleteStorageObjects (← getSession sessions session)
      (objectIds.toList.map cppDeleteStorageObjectId)
  | .rpc session id payload => do
    return .rpc (← getSession sessions session) id.text (optText payload)
  | .rpcWithHttpKey httpKey id payload =>
    some (.rpcWithKey httpKey.text id.text (optText payload))

/-- What the wrapped client receives when `op` is called on the wrapper. -/
def received (sessions : Sessions) (session : CSession) (op : ClientOp) : Option ClientOp :=
  (NClientWrapper.call session op).bind (NClientCall.run sessions)

/-! ## Arguments -/

/-- The session that an operation is given. -/
def sessionOf : ClientOp → Option NSession
  | .authenticateDevice .. | .authenticateEmail .. | .authenticateFacebook .. => none
  | .authenticateGoogle .. | .authenticateGameCenter .. | .authenticateCustom .. => none
  | .authenticateSteam .. | .rpcWithKey .. => none
  | .linkFacebook session .. | .linkEmail session .. | .linkDevice session .. => some session
  | .linkGoogle session .. | .linkGameCenter session .. | .linkSteam session .. => some session
  | .linkCustom session .. | .unlinkFacebook session .. | .unlinkEmail session .. => some session
  | .unlinkGoogle session .. | .unlinkGameCenter session .. | .unlinkSteam session .. => some session
  | .unlinkDevice session .. | .unlinkCustom session .. => some session
  | .importFacebookFriends session .. | .getAccount session .. => some session
  | .updateAccount session .. | .getUsers session .. | .addFriends session .. => some session
  | .deleteFriends session .. | .blockFriends session .. | .listFriends session .. => some session
  | .createGroup session .. | .deleteGroup session .. | .addGroupUsers session .. => some session
  | .listGroupUsers session .. | .kickGroupUsers session .. | .joinGroup session .. => some session
  | .leaveGroup session .. | .listGroups session .. | .listUserGroups session .. => some session
  | .promoteGroupUsers session .. | .updateGroup session .. => some session
  | .listLeaderboardRecords session .. => some session
  | .listLeaderboardRecordsAroundOwner session .. | .writeLeaderboardRecord session .. => some session
  | .writeTournamentRecord session .. | .deleteLeaderboardRecord session .. => some session
  | .listMatches session .. | .listNotifications session .. => some session
  | .deleteNotifications session .. | .listChannelMessages session .. => some session
  | .listTournaments session .. | .listTournamentRecords session .. => some session
  | .listTournamentRecordsAroundOwner session .. | .joinTournament session .. => some session
  | .listStorageObjects session .. | .listUsersStorageObjects session .. => some session
  | .writeStorageObjects session .. | .readStorageObjects session .. => some session
  | .deleteStorageObjects session .. | .rpc session .. => some session
  | .listOwnGroups session .. => session

def credentialTexts (player : GameCenterCredentials) : List String :=
  [player.playerId, player.bundleId, player.salt, player.signature, player.publicKeyUrl]

/-- The texts that an operation is given, those in lists and maps included. -/
def textsOf : ClientOp → List String
  | .authenticateDevice id username _ vars => [id] ++ username.toList ++ mapTexts vars
  | .authenticateEmail email password username _ vars =>
    [email, password, username] ++ mapTexts vars
  | .authenticateFacebook accessToken username _ _ vars => [accessToken, username] ++ mapTexts vars
  | .authenticateGoogle accessToken username _ vars => [accessToken, username] ++ mapTexts vars
  | .authenticateGameCenter player username _ vars =>
    credentialTexts player ++ [username] ++ mapTexts vars
  | .authenticateCustom id username _ vars => [id, username] ++ mapTexts vars
  | .authenticateSteam token username _ vars => [token, username] ++ mapTexts vars
  | .linkFacebook _ accessToken _ => [accessToken]
  | .linkEmail _ email password => [email, password]
  | .linkDevice _ id => [id]
  | .linkGoogle _ accessToken => [accessToken]
  | .linkGameCenter _ player => credentialTexts player
  | .linkSteam _ token => [token]
  | .linkCustom _ id => [id]
  | .unlinkFacebook _ accessToken => [accessToken]
  | .unlinkEmail _ email password => [email, password]
  | .unlinkGoogle _ accessToken => [accessToken]
  | .unlinkGameCenter _ player => credentialTexts player
  | .unlinkSteam _ token => [token]
  | .unlinkDevice _ id => [id]
  | .unlinkCustom _ id => [id]
  | .importFacebookFriends _ token _ => [token]
  | .getAccount _ => []
  | .updateAccount _ username displayName avatarUrl langTag location timezone =>
    username.toList ++ displayName.toList ++ avatarUrl.toList ++ langTag.toList ++
      location.toList ++ timezone.toList
  | .getUsers _ ids usernames facebookIds => ids ++ usernames ++ facebookIds
  | .addFriends _ ids usernames => ids ++ usernames
  | .deleteFriends _ ids usernames => ids ++ usernames
  | .blockFriends _ ids usernames => ids ++ usernames
  | .listFriends _ _ _ cursor => [cursor]
  | .createGroup _ name description avatarUrl langTag _ _ => [name, description, avatarUrl, langTag]
  | .deleteGroup _ groupId => [groupId]
  | .addGroupUsers _ groupId ids => groupId :: ids
  | .listGroupUsers _ groupId _ _ cursor => [groupId, cursor]
  | .kickGroupUsers _ groupId ids => groupId :: ids
  | .joinGroup _ groupId => [groupId]
  | .leaveGroup _ groupId => [groupId]
  | .listGroups _ name _ cursor => [name, cursor]
  | .listOwnGroups _ _ _ cursor => [cursor]
  | .listUserGroups _ userId _ _ cursor => [userId, cursor]
  | .promoteGroupUsers _ groupId ids => groupId :: ids
  | .updateGroup _ groupId name description avatarUrl langTag _ =>
    [groupId] ++ name.toList ++ description.toList ++ avatarUrl.toList ++ langTag.toList
  | .listLeaderboardRecords _ leaderboardId ownerIds _ cursor =>
    [leaderboardId] ++ ownerIds ++ cursor.toList
  | .listLeaderboardRecordsAroundOwner _ leaderboardId ownerId _ => [leaderboardId, ownerId]
  | .writeLeaderboardRecord _ leaderboardId _ _ metadata => leaderboardId :: metadata.toList
  | .writeTournamentRecord _ tournamentId _ _ metadata => tournamentId :: metadata.toList
  | .deleteLeaderboardRecord _ leaderboardId => [leaderboardId]
  | .listMatches _ _ _ _ label _ => label.toList
  | .listNotifications _ _ cacheableCursor => cacheableCursor.toList
  | .deleteNotifications _ notificationIds => notificationIds
  | .listChannelMessages _ channelId _ cursor _ => channelId :: cursor.toList
  | .listTournaments _ _ _ _ _ _ cursor => cursor.toList
  | .listTournamentRecords _ tournamentId _ cursor ownerIds =>
    [tournamentId] ++ cursor.toList ++ ownerIds
  | .listTournamentRecordsAroundOwner _ tournamentId ownerId _ => [tournamentId, ownerId]
  | .joinTournament _ tournamentId => [tournamentId]
  | .listStorageObjects _ collection _ cursor => collection :: cursor.toList
  | .listUsersStorageObjects _ collection userId _ cursor => [collection, userId] ++ cursor.toList
  | .writeStorageObjects _ objects =>
    objects.flatMap fun object => [object.collection, object.key, object.value, object.version]
  | .readStorageObjects _ objectIds =>
    objectIds.flatMap fun objectId => [objectId.collection, objectId.key, objectId.userId]
  | .deleteStorageObjects _ objectIds =>
    objectIds.flatMap fun objectId => [objectId.collection, objectId.key, objectId.version]
  | .rpc _ id payload => id :: payload.toList
  | .rpcWithKey httpKey id payload => [httpKey, id] ++ payload.toList

/-- The lengths of the lists that an operation is given. -/
def lengthsOf : ClientOp → List Nat
  | .getUsers _ ids usernames facebookIds => [ids.length, usernames.length, facebookIds.length]
  | .addFriends _ ids usernames => [ids.length, usernames.length]
  | .deleteFriends _ ids usernames => [ids.length, usernames.length]
  | .blockFriends _ ids usernames => [ids.length, usernames.length]
  | .addGroupUsers _ _ ids => [ids.length]
  | .kickGroupUsers _ _ ids => [ids.length]
  | .promoteGroupUsers _ _ ids => [ids.length]
  | .listLeaderboardRecords _ _ ownerIds _ _ => [ownerIds.length]
  | .deleteNotifications _ notificationIds => [notificationIds.length]
  | .listTournamentRecords _ _ _ _ ownerIds => [ownerIds.length]
  | .writeStorageObjects _ objects => [objects.length]
  | .readStorageObjects _ objectIds => [objectIds.length]
  | .deleteStorageObjects _ objectIds => [objectIds.length]
  | _ => []

/-- What a C call can carry. -/
structure Portable (op : ClientOp) : Prop where
  texts : AllNulFree (textsOf op)
  lengths : ∀ n ∈ lengthsOf op, n < 2 ^ 16

/-- Every optional has a form of its own in the C function that the operation calls. -/
def CrossesIntact : ClientOp → Prop
  | .authenticateDevice _ _ create _ => create.isSome
  | .linkFacebook _ _ importFriends => importFriends.isSome
  | .importFacebookFriends _ _ reset => reset.isSome
  | .listOwnGroups .. => False
  | .listUserGroups session userId _ _ _ => userId ≠ "" ∨ session.userId = ""
  | .listLeaderboardRecords _ _ _ limit cursor => limit.isSome ∧ cursor.isSome
  | .listLeaderboardRecordsAroundOwner _ _ _ limit => limit ≠ some 0
  | .listMatches _ minSize maxSize limit _ authoritative =>
    minSize ≠ some 0 ∧ maxSize ≠ some 0 ∧ limit ≠ some 0 ∧ authoritative.isSome
  | .listNotifications _ limit _ => limit ≠ some 0
  | .listChannelMessages _ _ limit _ forward => limit ≠ some 0 ∧ forward.isSome
  | .listTournaments _ _ _ _ _ limit _ => limit.isSome
  | .listTournamentRecords _ _ limit _ _ => limit.isSome
  | .listTournamentRecordsAroundOwner _ _ _ limit => limit.isSome
  | .listStorageObjects _ _ limit cursor => limit.isSome ∧ cursor.isSome
  | .listUsersStorageObjects _ _ _ limit cursor => limit.isSome ∧ cursor.isSome
  | _ => True

/-- What comes of an operation on its way. -/
def crossed : ClientOp → Option ClientOp
  | .authenticateDevice id username create vars =>
    some (.authenticateDevice id username (some (create.getD false)) vars)
  | .linkFacebook session accessToken importFriends =>
    some (.linkFacebook session accessToken (some (importFriends.getD false)))
  | .importFacebookFriends session token reset =>
    some (.importFacebookFriends session token (some (reset.getD false)))
  | .listOwnGroups session limit state cursor =>
    session.map fun session => .listUserGroups session session.userId limit state cursor
  | .listUserGroups session userId limit state cursor =>
    some (.listUserGroups session (if userId = "" then session.userId else userId) limit state cursor)
  | .listLeaderboardRecords session leaderboardId ownerIds limit cursor =>
    some (.listLeaderboardRecords session leaderboardId ownerIds (some (limit.getD 0))
      (some (cursor.getD "")))
  | .listLeaderboardRecordsAroundOwner session leaderboardId ownerId limit =>
    some (.listLeaderboardRecordsAroundOwner session leaderboardId ownerId
      (if limit = some 0 then none else limit))
  | .listMatches session minSize maxSize limit label authoritative =>
    some (.listMatches session (if minSize = some 0 then none else minSize)
      (if maxSize = some 0 then none else maxSize) (if limit = some 0 then none else limit) label
      (some (authoritative.getD false)))
  | .listNotifications session limit cacheableCursor =>
    some (.listNotifications session (if limit = some 0 then none else limit) cacheableCursor)
  | .listChannelMessages session channelId limit cursor forward =>
    some (.listChannelMessages session channelId (if limit = some 0 then none else limit) cursor
      (some (forward.getD true)))
  | .listTournaments session categoryStart categoryEnd startTime endTime limit cursor =>
    some (.listTournaments session categoryStart categoryEnd startTime endTime
      (some (limit.getD 0)) cursor)
  | .listTournamentRecords session tournamentId limit cursor ownerIds =>
    some (.listTournamentRecords session tournamentId (some (limit.getD 0)) cursor ownerIds)
  | .listTournamentRecordsAroundOwner session tournamentId ownerId limit =>
    some (.listTournamentRecordsAroundOwner session tournamentId ownerId (some (limit.getD 0)))
  | .listStorageObjects session collection limit cursor =>
    some (.listStorageObjects session collection (some (limit.getD 0)) (some (cursor.getD "")))
  | .listUsersStorageObjects session collection userId limit cursor =>
    some (.listUsersStorageObjects session collection userId (some (limit.getD 0))
      (some (cursor.getD "")))
  | op => some op

/-! ## One argument at a time -/

variable {s : String}

theorem orEmpty_orNull (h : NulFree s) : orEmpty (orNull s) = s := by
  unfold orNull
  split
  · next he =>
    rw [String.isEmpty_iff] at he
    rw [he]
    rfl
  · exact CStr.text_ofString h

theorem optText_optCStr {s : Option String} (h : AllNulFree s.toList) : optText (optCStr s) = s :=
  CStr.map_text_ofString h

theorem getD_orNull (h : NulFree s) (fallback : String) :
    (optText (orNull s)).getD fallback = if s = "" then fallback else s := by
  unfold orNull
  by_cases he : s = ""
  · rw [if_pos he, if_pos (String.isEmpty_iff.2 he)]
    rfl
  · rw [if_neg he, if_neg fun hc => he (String.isEmpty_iff.1 hc)]
    exact CStr.text_ofString h

theorem orEmpty_optCStr {s : Option String} (h : AllNulFree s.toList) :
    orEmpty (optCStr s) = s.getD "" := by
  exact congrArg (fun o => Option.getD o "") (optText_optCStr h)

theorem texts_cStrs {l : List String} (h : AllNulFree l) (hl : l.length < 2 ^ 16) :
    texts (cStrs l) = l :=
  CArray.map_toList_ofList hl fun s hs => CStr.text_ofString (h s hs)

theorem unlessZero_getD (n : Option Int32) :
    unlessZero (n.getD 0) = if n = some 0 then none else n := by
  cases n with
  | none => rfl
  | some n =>
    unfold unlessZero
    simp only [Option.getD_some, Option.some.injEq]

theorem unsignedUnlessZero_eq (n : Int32) : unsignedUnlessZero n = unlessZero n := by
  have hid : (fun n : Int32 => n.toUInt32.toInt32) = id := funext Int32.toInt32_toUInt32
  rw [unsignedUnlessZero, hid, Option.map_id]
  rfl

theorem toCNStringMap_eq {map : NStringMap} (h : AllNulFree (mapTexts map)) :
    toCNStringMap map = saveMap map := by
  have hwrite : writeMap (fun v => (cStr v).text) map = map :=
    writeMap_eq (fun k hk => nulFree_key h hk) fun k v hget =>
      CStr.text_ofString (nulFree_entry h hget).2
  rw [toCNStringMap, hwrite, saveMap]

theorem cppVars_toCNStringMap {vars : NStringMap} (h : AllNulFree (mapTexts vars)) :
    cppVars (toCNStringMap vars) = vars := by
  rw [toCNStringMap_eq h]
  rcases saveMap_cases vars with ⟨rfl, hsave⟩ | hsave
  · rfl
  · rw [hsave]
    rfl

theorem cppCredentials_cCredentials {player : GameCenterCredentials}
    (h : AllNulFree (credentialTexts player)) : cppCredentials (cCredentials player) = player := by
  simp only [credentialTexts, allNulFree_cons] at h
  obtain ⟨h₁, h₂, h₃, h₄, h₅, -⟩ := h
  simp only [cppCredentials, cCredentials, CStr.text_ofString h₁, CStr.text_ofString h₂,
    CStr.text_ofString h₃, CStr.text_ofString h₄, CStr.text_ofString h₅]

theorem castFriendState_toInt32 (state : NFriendState) : castFriendState state.toInt32 = some state := by
  cases state <;> rfl

theorem mapM_castFriendState (state : Option NFriendState) :
    (state.map NFriendState.toInt32).mapM castFriendState = some state := by
  cases state with
  | none => rfl
  | some state =>
    show (castFriendState state.toInt32).map some = _
    rw [castFriendState_toInt32]
    rfl

/-- The permissions of an object to write arrive, its texts up to a NUL. -/
theorem cppStorageObjectWrite_eq (object : NStorageObjectWrite) :
    cppStorageObjectWrite (cStorageObjectWrite object) =
      some { object with
        collection := (cStr object.collection).text
        key := (cStr object.key).text
        value := (cStr object.value).text
        version := (cStr object.version).text } := by
  have hread : (object.permissionRead.map NStoragePermissionRead.toInt32).mapM castPermissionRead =
      some object.permissionRead := by
    rcases object.permissionRead with _ | p
    · rfl
    · cases p <;> rfl
  have hwrite : (object.permissionWrite.map NStoragePermissionWrite.toInt32).mapM castPermissionWrite =
      some object.permissionWrite := by
    rcases object.permissionWrite with _ | p
    · rfl
    · cases p <;> rfl
  simp only [cppStorageObjectWrite, cStorageObjectWrite, hread, hwrite]
  rfl

theorem cppStorageObjectWrite_c {object : NStorageObjectWrite}
    (h : AllNulFree [object.collection, object.key, object.value, object.version]) :
    cppStorageObjectWrite (cStorageObjectWrite object) = some object := by
  simp only [allNulFree_cons] at h
  obtain ⟨h₁, h₂, h₃, h₄, -⟩ := h
  rw [cppStorageObjectWrite_eq, CStr.text_ofString h₁, CStr.text_ofString h₂, CStr.text_ofString h₃,
    CStr.text_ofString h₄]

theorem mapM_cppStorageObjectWrite {objects : List NStorageObjectWrite}
    (h : AllNulFree (objects.flatMap fun object =>
      [object.collection, object.key, object.value, object.version]))
    (hl : objects.length < 2 ^ 16) :
    (CArray.alloc cStorageObjectWrite objects).toList.mapM cppStorageObjectWrite = some objects :=
  CArray.mapM_toList_alloc hl fun _ ho => cppStorageObjectWrite_c (h.of_mem_flatMap ho)

theorem map_cppReadStorageObjectId {objectIds : List NReadStorageObjectId}
    (h : AllNulFree (objectIds.flatMap fun objectId =>
      [objectId.collection, objectId.key, objectId.userId]))
    (hl : objectIds.length < 2 ^ 16) :
    (CArray.alloc cReadStorageObjectId objectIds).toList.map cppReadStorageObjectId = objectIds := by
  refine CArray.map_toList_alloc hl fun objectId ho => ?_
  have ht := h.of_mem_flatMap ho
  simp only [allNulFree_cons] at ht
  obtain ⟨h₁, h₂, h₃, -⟩ := ht
  simp only [cppReadStorageObjectId, cReadStorageObjectId, CStr.text_ofString h₁,
    CStr.text_ofString h₂, CStr.text_ofString h₃]

theorem map_cppDeleteStorageObjectId {objectIds : List NDeleteStorageObjectId}
    (h : AllNulFree (objectIds.flatMap fun objectId =>
      [objectId.collection, objectId.key, objectId.version]))
    (hl : objectIds.length < 2 ^ 16) :
    (CArray.ofList (objectIds.map cDeleteStorageObjectId)).toList.map cppDeleteStorageObjectId =
      objectIds := by
  refine CArray.map_toList_ofList hl fun objectId ho => ?_
  have ht := h.of_mem_flatMap ho
  simp only [allNulFree_cons] at ht
  obtain ⟨h₁, h₂, h₃, -⟩ := ht
  simp only [cppDeleteStorageObjectId, cDeleteStorageObjectId, CStr.text_ofString h₁,
    CStr.text_ofString h₂, CStr.text_ofString h₃]

/-! ## What arrives -/

theorem received_listUserGroups {sessions : Sessions} {cSession : CSession} {session : NSession}
    {userId cursor : String} (limit : Option Int32) (state : Option NFriendState)
    (hu : NulFree userId) (hc : NulFree cursor) (hs : getSession sessions cSession = some session) :
    (NClientWrapper.listUserGroups cSession userId limit state cursor).run sessions =
      some (.listUserGroups session (if userId = "" then session.userId else userId) limit state
        cursor) := by
  simp only [NClientWrapper.listUserGroups, NClientCall.run, hs, getD_orNull hu, orEmpty_orNull hc,
    mapM_castFriendState, Option.bind_eq_bind, Option.bind_some, pure]

/-- The wrapped client receives the operation, with absent and zero optionals as the C
function makes them. -/
theorem received_eq {sessions : Sessions} {cSession : CSession} {op : ClientOp} (hp : Portable op)
    (hs : ∀ session ∈ sessionOf op, getSession sessions cSession = some session) :
    received sessions cSession op = crossed op := by
  obtain ⟨ht, hl⟩ := hp
  cases op
  case listOwnGroups session limit state cursor =>
    simp only [textsOf, allNulFree_cons] at ht
    cases session with
    | none => rfl
    | some session =>
      exact received_listUserGroups limit state (by decide) ht.1 (hs session rfl)
  case listUserGroups session userId limit state cursor =>
    simp only [textsOf, allNulFree_cons] at ht
    exact received_listUserGroups limit state ht.1 ht.2.1 (hs session rfl)
  all_goals
    simp only [textsOf, lengthsOf, sessionOf, allNulFree_append, allNulFree_cons,
      List.forall_mem_cons, Option.mem_some_iff, forall_eq'] at ht hl hs
  all_goals
    simp only [received, NClientWrapper.call, NClientCall.run, crossed, hs, ht, hl,
      CStr.text_ofString, optText_optCStr, orEmpty_orNull, orEmpty_optCStr, texts_cStrs,
      unlessZero_getD, unsignedUnlessZero_eq, cppVars_toCNStringMap, cppCredentials_cCredentials,
      mapM_castFriendState, mapM_cppStorageObjectWrite, map_cppReadStorageObjectId,
      map_cppDeleteStorageObjectId, Option.bind_eq_bind, Option.bind_some, Option.getD_some, pure]

theorem some_getD_eq_iff {α : Type} {o : Option α} {fallback : α} :
    some (o.getD fallback) = o ↔ o.isSome = true := by
  cases o with
  | none => simp
  | some a => simp

theorem ite_none_eq_iff {n : Option Int32} : (if n = some 0 then none else n) = n ↔ n ≠ some 0 := by
  split
  · next h => rw [h]; simp
  · next h => simp [h]

theorem crossed_eq_iff {op : ClientOp} : crossed op = some op ↔ CrossesIntact op := by
  cases op
  case listOwnGroups session limit state cursor =>
    cases session with
    | none => simp [crossed, CrossesIntact]
    | some session => simp [crossed, CrossesIntact]
  case listUserGroups session userId limit state cursor =>
    by_cases hu : userId = ""
    · simp [crossed, CrossesIntact, hu]
    · simp [crossed, CrossesIntact, hu]
  all_goals
    simp only [crossed, CrossesIntact, Option.some.injEq, ClientOp.authenticateDevice.injEq,
      ClientOp.linkFacebook.injEq, ClientOp.importFacebookFriends.injEq,
      ClientOp.listLeaderboardRecords.injEq, ClientOp.listLeaderboardRecordsAroundOwner.injEq,
      ClientOp.listMatches.injEq, ClientOp.listNotifications.injEq,
      ClientOp.listChannelMessages.injEq, ClientOp.listTournaments.injEq,
      ClientOp.listTournamentRecords.injEq, ClientOp.listTournamentRecordsAroundOwner.injEq,
      ClientOp.listStorageObjects.injEq, ClientOp.listUsersStorageObjects.injEq, some_getD_eq_iff,
      ite_none_eq_iff, true_and, and_true]

/-- **Transparency.**  When the session is alive, the wrapped client receives the same
operation with the same arguments exactly when every optional has a form of its own in C. -/
theorem received_iff {s : SessionState} (h : Reach SessionState.step anyStep {} s)
    {cSession : CSession} {op : ClientOp} (hp : Portable op)
    (hs : ∀ session ∈ sessionOf op, (cSession, session) ∈ s.wrappers) :
    received s.sessions cSession op = some op ↔ CrossesIntact op := by
  rw [received_eq hp fun session hmem => SessionState.getSession_wrapper h (hs session hmem)]
  exact crossed_eq_iff

def someSession : NSession := ⟨"token", "user"⟩

/-- A session at address 16, wrapped. -/
def oneSession : SessionState := ⟨[(16, someSession)], [(16, someSession)]⟩

theorem received_iff_listFriends :
    received oneSession.sessions 16 (.listFriends someSession (some 0) (some .blocked) "") =
      some (.listFriends someSession (some 0) (some .blocked) "") := by
  have h : Reach SessionState.step anyStep {} oneSession :=
    .step .init trivial (a := .save 16 someSession true) rfl
  exact (received_iff h ⟨by decide, by decide⟩ (by decide)).2 trivial

/-- An absent `create` arrives as false, a limit of zero does not arrive, and the groups of a
null session are not asked for. -/
theorem not_received :
    (received [] 0 (.authenticateDevice "device" none none ∅) =
        some (.authenticateDevice "device" none (some false) ∅) ∧
      received [] 0 (.authenticateDevice "device" none none ∅) ≠
        some (.authenticateDevice "device" none none ∅)) ∧
    (received oneSession.sessions 16 (.listNotifications someSession (some 0) none) =
        some (.listNotifications someSession none none) ∧
      received oneSession.sessions 16 (.listNotifications someSession (some 0) none) ≠
        some (.listNotifications someSession (some 0) none)) ∧
    received oneSession.sessions 16 (.listOwnGroups none none none "") = none := by
  have hdevice : received [] 0 (.authenticateDevice "device" none none ∅) =
      some (.authenticateDevice "device" none (some false) ∅) :=
    received_eq ⟨by decide, by decide⟩ (by decide)
  have hlist : received oneSession.sessions 16 (.listNotifications someSession (some 0) none) =
      some (.listNotifications someSession none none) :=
    received_eq ⟨by decide, by decide⟩ (by decide)
  refine ⟨⟨hdevice, fun h => ?_⟩, ⟨hlist, fun h => ?_⟩, rfl⟩
  · rw [hdevice] at h
    cases h
  · rw [hlist] at h
    cases h

end NakamaCpp.CApi
