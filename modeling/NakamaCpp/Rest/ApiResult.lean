import NakamaCpp.Api.Assign
import NakamaCpp.CApi.DataRoundTrip
import NakamaCpp.Rest.DefaultSession
import NakamaCpp.Rest.GrpcRun

/-!
# What the callbacks of a client are given

The success callbacks of src/RestClient.cpp and src/GrpcClient.cpp with their data: both clients
have the same closures, which the message of the response goes through.  The calls are those of
`RestClient.responseCalls` and `GrpcClient.onResponse`, which leave the data out
(`call_onResponse`, `call_answer`).
-/

namespace NakamaCpp.Rest

open JsonText Http CApi

/-! ## Responses -/

namespace ResponseType

/-- The class of the message. -/
abbrev Message : ResponseType → Type
  | .Session => Api.Session
  | .Account => Api.Account
  | .Users => Api.Users
  | .FriendList => Api.FriendList
  | .Group => Api.Group
  | .GroupUserList => Api.GroupUserList
  | .GroupList => Api.GroupList
  | .UserGroupList => Api.UserGroupList
  | .LeaderboardRecordList => Api.LeaderboardRecordList
  | .LeaderboardRecord => Api.LeaderboardRecord
  | .MatchList => Api.MatchList
  | .NotificationList => Api.NotificationList
  | .ChannelMessageList => Api.ChannelMessageList
  | .TournamentList => Api.TournamentList
  | .TournamentRecordList => Api.TournamentRecordList
  | .StorageObjectList => Api.StorageObjectList
  | .StorageObjectAcks => Api.StorageObjectAcks
  | .StorageObjects => Api.StorageObjects
  | .Rpc => Api.Rpc

end ResponseType

/-- A message with its class. -/
abbrev ResponseData := (type : ResponseType) × type.Message

/-- The argument of a success callback. -/
inductive ClientResult
  | session (session : DefaultSession)
  | data (type : CallbackType) (data : type.Cpp)
  /-- of a callback without an argument -/
  | empty

/-- The closure that is the success callback of a context, called at `now`: what it gives to the
callback of the user.  `none` is a failed assertion while a session is read. -/
def ResponseType.given (json : JsonLib) (now : UInt64) :
    (type : ResponseType) → type.Message → Option ClientResult
  | .Session, data =>
    (DefaultSession.create json data.token data.created now).map ClientResult.session
  | .Account, data => some (.data .account (Api.Account.assign data))
  | .Users, data => some (.data .users (Api.Users.assign data))
  | .FriendList, data => some (.data .friendList (Api.FriendList.assign data))
  | .Group, data => some (.data .group (Api.Group.assign data))
  | .GroupUserList, data => some (.data .groupUserList (Api.GroupUserList.assign data))
  | .GroupList, data => some (.data .groupList (Api.GroupList.assign data))
  | .UserGroupList, data => some (.data .userGroupList (Api.UserGroupList.assign data))
  | .LeaderboardRecordList, data =>
    some (.data .leaderboardRecordList (Api.LeaderboardRecordList.assign data))
  | .LeaderboardRecord, data => some (.data .leaderboardRecord (Api.LeaderboardRecord.assign data))
  | .MatchList, data => some (.data .matchList (Api.MatchList.assign data))
  | .NotificationList, data => some (.data .notificationList (Api.NotificationList.assign data))
  | .ChannelMessageList, data =>
    some (.data .channelMessageList (Api.ChannelMessageList.assign data))
  | .TournamentList, data => some (.data .tournamentList (Api.TournamentList.assign data))
  | .TournamentRecordList, data =>
    some (.data .tournamentRecordList (Api.TournamentRecordList.assign data))
  | .StorageObjectList, data => some (.data .storageObjectList (Api.StorageObjectList.assign data))
  | .StorageObjectAcks, data =>
    some (.data .storageObjectAcks (data.acks.map Api.StorageObjectAck.assign))
  | .StorageObjects, data =>
    some (.data .storageObjects (data.objects.map Api.StorageObject.assign))
  | .Rpc, data => some (.data .rpc (Api.Rpc.assign data))

/-! ## Calls -/

/-- A call into user code, and the argument of a success callback. -/
structure ApiCall where
  call : ClientCall
  result : Option ClientResult := none

/-- The success callback of request `q`, of an operation with a response or without. -/
def succeed (json : JsonLib) (now : UInt64) (q : Nat) : Option ResponseData → Option (List ApiCall)
  | none => some [⟨.success q, some .empty⟩]
  | some ⟨type, data⟩ =>
    (type.given json now data).map fun result => [⟨.success q, some result⟩]

/-- Calls of error callbacks. -/
def failWith (calls : List ClientCall) : List ApiCall := calls.map fun call => { call }

/-- The parsers that the clients call, as in `JsonLib`; of a message that a body is parsed into,
or the status if it is not ok. -/
structure ApiLib where
  parse : String → Option Json
  toMessage : (type : ResponseType) → String → Except String type.Message
  base64Decode : String → String

/-- The status, if it is not ok. -/
def errorOf {α : Type} : Except String α → Option String
  | .ok _ => none
  | .error status => some status

def tokenOf : Except String Api.Session → String
  | .ok data => data.token
  | .error _ => ""

/-- What `onResponse` needs of them to decide whom to call. -/
def ApiLib.json (lib : ApiLib) : JsonLib where
  parse := lib.parse
  toMessage type body := errorOf (lib.toMessage type body)
  sessionToken body := tokenOf (lib.toMessage .Session body)
  base64Decode := lib.base64Decode

/-- A response, and the time when it is handled. -/
structure HttpAnswer where
  response : NHttpResponse
  now : UInt64

/-- An event of the completion queue, with the message for the response, and the time. -/
structure GrpcAnswer where
  ok : Bool
  errorCode : Int := 0
  errorMessage : String := ""
  errorDetails : String := ""
  /-- what the call has left in the message, of whatever class that is -/
  response : (type : ResponseType) → type.Message
  now : UInt64

def GrpcAnswer.event (answer : GrpcAnswer) : GrpcEvent where
  ok := answer.ok
  errorCode := answer.errorCode
  errorMessage := answer.errorMessage
  errorDetails := answer.errorDetails
  token := (answer.response .Session).token

/-- `RestClient::onResponse`, for the context of request `q`, which it has found. -/
def RestClient.onResponse (lib : ApiLib) (defaultErrorCallback : Bool) (q : Nat)
    (ctx : RestContext) (answer : HttpAnswer) : Option (List ApiCall) :=
  let response := answer.response
  if response.statusCode = 200 then
    if ctx.successCallback then
      match ctx.data with
      | none => succeed lib.json answer.now q none
      | some type =>
        match lib.toMessage type response.body with
        | .ok data => succeed lib.json answer.now q (some ⟨type, data⟩)
        | .error status =>
          some (failWith (Rest.reqError (own q ctx.errorCallback) defaultErrorCallback
            { message := "Parse JSON failed. HTTP body: " ++ response.body ++ " error: " ++ status
              code := .internalError }))
    else some []
  else
    (RestClient.statusError lib.json response).map fun error =>
      failWith (Rest.reqError (own q ctx.errorCallback) defaultErrorCallback
        (RestClient.withMessage response error))

/-- `GrpcClient::onResponse`. -/
def GrpcClient.answer (lib : ApiLib) (defaultErrorCallback : Bool) (q : Nat) (ctx : GrpcContext)
    (answer : GrpcAnswer) : Option (List ApiCall) :=
  if answer.ok then
    if answer.errorCode = 0 then
      if ctx.successCallback then
        succeed lib.json answer.now q (ctx.data.map fun type => ⟨type, answer.response type⟩)
      else some []
    else
      some (failWith (Rest.reqError (own q ctx.errorCallback) defaultErrorCallback
        (GrpcClient.statusError answer.event)))
  else
    some (failWith (Rest.reqError (own q ctx.errorCallback) defaultErrorCallback
      { message := "Communication failed. Please check connection.", code := .connectionError }))

/-! ## Without the data -/

theorem map_call_failWith (calls : List ClientCall) : (failWith calls).map ApiCall.call = calls := by
  rw [failWith, List.map_map]
  exact List.map_id' calls

/-- Only a session can fail to be built. -/
theorem given_isSome (json : JsonLib) (now : UInt64) {type : ResponseType} (h : type ≠ .Session)
    (data : type.Message) : (type.given json now data).isSome = true := by
  cases type
  case Session => exact absurd rfl h
  all_goals rfl

theorem given_session_isSome (json : JsonLib) (now : UInt64) (data : Api.Session) :
    (ResponseType.given json now .Session data).isSome = DefaultSession.built json data.token := by
  rw [DefaultSession.built_eq json data.token data.created now, ResponseType.given]
  exact Option.isSome_map

theorem map_call_succeed (json : JsonLib) (now : UInt64) (q : Nat) {type : ResponseType}
    (data : type.Message) :
    (succeed json now q (some ⟨type, data⟩)).map (List.map ApiCall.call) =
      if (type.given json now data).isSome then some [.success q] else none := by
  rw [succeed]
  cases type.given json now data <;> rfl

theorem map_call_onResponse (lib : ApiLib) (defaultErrorCallback : Bool) (q : Nat)
    (ctx : RestContext) (answer : HttpAnswer) :
    (RestClient.onResponse lib defaultErrorCallback q ctx answer).map (List.map ApiCall.call) =
      RestClient.responseCalls lib.json defaultErrorCallback q ctx answer.response := by
  unfold RestClient.onResponse RestClient.responseCalls
  dsimp only
  split
  · split
    · cases ctx.data with
      | none => rfl
      | some type =>
        have hstatus : lib.json.toMessage type answer.response.body =
            errorOf (lib.toMessage type answer.response.body) := rfl
        dsimp only [Option.bind_some]
        rw [hstatus]
        cases hmessage : lib.toMessage type answer.response.body with
        | error status => exact congrArg some (map_call_failWith _)
        | ok data =>
          dsimp only [errorOf]
          rw [map_call_succeed]
          by_cases hsession : type = .Session
          · subst hsession
            have htoken : lib.json.sessionToken answer.response.body = data.token := by
              show tokenOf (lib.toMessage .Session answer.response.body) = _
              rw [hmessage, tokenOf]
            rw [given_session_isSome, RestClient.converts, htoken]
          · have hconverts : RestClient.converts lib.json (some type) answer.response.body = true := by
              cases type
              case Session => exact absurd rfl hsession
              all_goals rfl
            rw [given_isSome _ _ hsession, hconverts]
    · rfl
  · rw [Option.map_map]
    refine congrArg (Option.map · _) (funext fun error => ?_)
    exact map_call_failWith _

theorem map_call_answer (lib : ApiLib) (defaultErrorCallback : Bool) (q : Nat)
    (ctx : GrpcContext) (answer : GrpcAnswer) :
    (GrpcClient.answer lib defaultErrorCallback q ctx answer).map (List.map ApiCall.call) =
      GrpcClient.onResponse lib.json defaultErrorCallback q ctx answer.event := by
  have herror : answer.event.errorCode = answer.errorCode := rfl
  have hok : answer.event.ok = answer.ok := rfl
  unfold GrpcClient.answer GrpcClient.onResponse
  rw [herror, hok]
  split
  · split
    · split
      · cases ctx.data with
        | none => rfl
        | some type =>
          rw [Option.map_some, map_call_succeed]
          by_cases hsession : type = .Session
          · subst hsession
            have htoken : answer.event.token = (answer.response .Session).token := rfl
            rw [given_session_isSome, htoken]
            cases DefaultSession.built lib.json (answer.response .Session).token <;> simp
          · rw [given_isSome _ _ hsession, if_pos rfl, if_neg fun h => hsession (Option.some.inj h.1)]
      · rfl
    · exact congrArg some (map_call_failWith _)
  · exact congrArg some (map_call_failWith _)

end NakamaCpp.Rest
