import NakamaCpp.Lib.Transcode

/-!
# The operations of `NClientInterface`

One constructor for each request operation of
include/nakama-cpp/NClientInterface.h, with its arguments but for the callbacks.
A `std::string` is a text, an `opt::optional` an `Option`, and `NStringMap` the
ordered map that it is in C++.  The overload of `listUserGroups` without a user id is
`listOwnGroups`, the only operation that checks for a null session; the overload of
`rpc` with an HTTP key is `rpcWithKey`.
-/

namespace NakamaCpp.Rest

open Transcode

abbrev NStringMap := Std.ExtTreeMap String String

/-- UNIX time. -/
abbrev NTimestamp := UInt64

/-- What the clients read of a session. -/
structure NSession where
  authToken : String
  userId : String
deriving DecidableEq, Repr

/-- `NFriend::State`. -/
inductive NFriendState
  | friend
  | inviteSent
  | inviteReceived
  | blocked
deriving DecidableEq, Repr

def NFriendState.toInt32 : NFriendState → Int32
  | friend => 0
  | inviteSent => 1
  | inviteReceived => 2
  | blocked => 3

inductive NStoragePermissionRead
  | noRead
  | ownerRead
  | publicRead
deriving DecidableEq, Repr

def NStoragePermissionRead.toInt32 : NStoragePermissionRead → Int32
  | noRead => 0
  | ownerRead => 1
  | publicRead => 2

inductive NStoragePermissionWrite
  | noWrite
  | ownerWrite
deriving DecidableEq, Repr

def NStoragePermissionWrite.toInt32 : NStoragePermissionWrite → Int32
  | noWrite => 0
  | ownerWrite => 1

structure NStorageObjectWrite where
  collection : String
  key : String
  value : String
  version : String
  permissionRead : Option NStoragePermissionRead
  permissionWrite : Option NStoragePermissionWrite
deriving DecidableEq, Repr

structure NReadStorageObjectId where
  collection : String
  key : String
  userId : String
deriving DecidableEq, Repr

structure NDeleteStorageObjectId where
  collection : String
  key : String
  version : String
deriving DecidableEq, Repr

/-- The arguments that identify a player to Game Center. -/
structure GameCenterCredentials where
  playerId : String
  bundleId : String
  timestampSeconds : NTimestamp
  salt : String
  signature : String
  publicKeyUrl : String
deriving DecidableEq, Repr

inductive ClientOp
  | authenticateDevice (id : String) (username : Option String) (create : Option Bool)
      (vars : NStringMap)
  | authenticateEmail (email password username : String) (create : Bool) (vars : NStringMap)
  | authenticateFacebook (accessToken username : String) (create importFriends : Bool)
      (vars : NStringMap)
  | authenticateGoogle (accessToken username : String) (create : Bool) (vars : NStringMap)
  | authenticateGameCenter (player : GameCenterCredentials) (username : String) (create : Bool)
      (vars : NStringMap)
  | authenticateCustom (id username : String) (create : Bool) (vars : NStringMap)
  | authenticateSteam (token username : String) (create : Bool) (vars : NStringMap)
  | linkFacebook (session : NSession) (accessToken : String) (importFriends : Option Bool)
  | linkEmail (session : NSession) (email password : String)
  | linkDevice (session : NSession) (id : String)
  | linkGoogle (session : NSession) (accessToken : String)
  | linkGameCenter (session : NSession) (player : GameCenterCredentials)
  | linkSteam (session : NSession) (token : String)
  | linkCustom (session : NSession) (id : String)
  | unlinkFacebook (session : NSession) (accessToken : String)
  | unlinkEmail (session : NSession) (email password : String)
  | unlinkGoogle (session : NSession) (accessToken : String)
  | unlinkGameCenter (session : NSession) (player : GameCenterCredentials)
  | unlinkSteam (session : NSession) (token : String)
  | unlinkDevice (session : NSession) (id : String)
  | unlinkCustom (session : NSession) (id : String)
  | importFacebookFriends (session : NSession) (token : String) (reset : Option Bool)
  | getAccount (session : NSession)
  | updateAccount (session : NSession)
      (username displayName avatarUrl langTag location timezone : Option String)
  | getUsers (session : NSession) (ids usernames facebookIds : List String)
  | addFriends (session : NSession) (ids usernames : List String)
  | deleteFriends (session : NSession) (ids usernames : List String)
  | blockFriends (session : NSession) (ids usernames : List String)
  | listFriends (session : NSession) (limit : Option Int32) (state : Option NFriendState)
      (cursor : String)
  | createGroup (session : NSession) (name description avatarUrl langTag : String) (isOpen : Bool)
      (maxCount : Option Int32)
  | deleteGroup (session : NSession) (groupId : String)
  | addGroupUsers (session : NSession) (groupId : String) (ids : List String)
  | listGroupUsers (session : NSession) (groupId : String) (limit : Option Int32)
      (state : Option NFriendState) (cursor : String)
  | kickGroupUsers (session : NSession) (groupId : String) (ids : List String)
  | joinGroup (session : NSession) (groupId : String)
  | leaveGroup (session : NSession) (groupId : String)
  | listGroups (session : NSession) (name : String) (limit : Int32) (cursor : String)
  | listOwnGroups (session : Option NSession) (limit : Option Int32) (state : Option NFriendState)
      (cursor : String)
  | listUserGroups (session : NSession) (userId : String) (limit : Option Int32)
      (state : Option NFriendState) (cursor : String)
  | promoteGroupUsers (session : NSession) (groupId : String) (ids : List String)
  | updateGroup (session : NSession) (groupId : String)
      (name description avatarUrl langTag : Option String) (isOpen : Option Bool)
  | listLeaderboardRecords (session : NSession) (leaderboardId : String) (ownerIds : List String)
      (limit : Option Int32) (cursor : Option String)
  | listLeaderboardRecordsAroundOwner (session : NSession) (leaderboardId ownerId : String)
      (limit : Option Int32)
  | writeLeaderboardRecord (session : NSession) (leaderboardId : String) (score : Int64)
      (subscore : Option Int64) (metadata : Option String)
  | writeTournamentRecord (session : NSession) (tournamentId : String) (score : Int64)
      (subscore : Option Int64) (metadata : Option String)
  | deleteLeaderboardRecord (session : NSession) (leaderboardId : String)
  | listMatches (session : NSession) (minSize maxSize limit : Option Int32) (label : Option String)
      (authoritative : Option Bool)
  | listNotifications (session : NSession) (limit : Option Int32) (cacheableCursor : Option String)
  | deleteNotifications (session : NSession) (notificationIds : List String)
  | listChannelMessages (session : NSession) (channelId : String) (limit : Option Int32)
      (cursor : Option String) (forward : Option Bool)
  | listTournaments (session : NSession) (categoryStart categoryEnd startTime endTime : Option UInt32)
      (limit : Option Int32) (cursor : Option String)
  | listTournamentRecords (session : NSession) (tournamentId : String) (limit : Option Int32)
      (cursor : Option String) (ownerIds : List String)
  | listTournamentRecordsAroundOwner (session : NSession) (tournamentId ownerId : String)
      (limit : Option Int32)
  | joinTournament (session : NSession) (tournamentId : String)
  | listStorageObjects (session : NSession) (collection : String) (limit : Option Int32)
      (cursor : Option String)
  | listUsersStorageObjects (session : NSession) (collection userId : String) (limit : Option Int32)
      (cursor : Option String)
  | writeStorageObjects (session : NSession) (objects : List NStorageObjectWrite)
  | readStorageObjects (session : NSession) (objectIds : List NReadStorageObjectId)
  | deleteStorageObjects (session : NSession) (objectIds : List NDeleteStorageObjectId)
  | rpc (session : NSession) (id : String) (payload : Option String)
  | rpcWithKey (httpKey id : String) (payload : Option String)

/-- The texts that an operation puts into the path of its request. -/
def ClientOp.pathIds : ClientOp → List String
  | .deleteGroup _ groupId => [groupId]
  | .addGroupUsers _ groupId _ => [groupId]
  | .listGroupUsers _ groupId _ _ _ => [groupId]
  | .kickGroupUsers _ groupId _ => [groupId]
  | .joinGroup _ groupId => [groupId]
  | .leaveGroup _ groupId => [groupId]
  | .listOwnGroups session _ _ _ => (session.map NSession.userId).toList
  | .listUserGroups _ userId _ _ _ => [userId]
  | .promoteGroupUsers _ groupId _ => [groupId]
  | .updateGroup _ groupId _ _ _ _ _ => [groupId]
  | .listLeaderboardRecords _ leaderboardId _ _ _ => [leaderboardId]
  | .listLeaderboardRecordsAroundOwner _ leaderboardId ownerId _ => [leaderboardId, ownerId]
  | .writeLeaderboardRecord _ leaderboardId _ _ _ => [leaderboardId]
  | .writeTournamentRecord _ tournamentId _ _ _ => [tournamentId]
  | .deleteLeaderboardRecord _ leaderboardId => [leaderboardId]
  | .listChannelMessages _ channelId _ _ _ => [channelId]
  | .listTournamentRecords _ tournamentId _ _ _ => [tournamentId]
  | .listTournamentRecordsAroundOwner _ tournamentId ownerId _ => [tournamentId, ownerId]
  | .joinTournament _ tournamentId => [tournamentId]
  | .listStorageObjects _ collection _ _ => [collection]
  | .listUsersStorageObjects _ collection _ _ _ => [collection]
  | .rpc _ id _ => [id]
  | .rpcWithKey _ id _ => [id]
  | _ => []

/-- The texts in the path are made of URI-unreserved characters. -/
def ClientOp.IdsUnreserved (op : ClientOp) : Prop := ∀ id ∈ op.pathIds, Unreserved id

instance (op : ClientOp) : Decidable op.IdsUnreserved :=
  decidable_of_iff (op.pathIds.all fun id => decide (Unreserved id)) (by
    unfold ClientOp.IdsUnreserved
    rw [List.all_eq_true]
    simp only [decide_eq_true_eq])

/-- `s`, unless it is empty. -/
def nonEmpty (s : String) : Option String := if s = "" then none else some s

/-- `n`, if it is positive. -/
def positive (n : Int32) : Option Int32 := if 0 < n then some n else none

@[simp] theorem nonEmpty_getD (s : String) : (nonEmpty s).getD "" = s := by
  unfold nonEmpty
  split
  · next h => rw [h]; rfl
  · rfl

end NakamaCpp.Rest
