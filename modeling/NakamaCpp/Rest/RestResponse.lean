import NakamaCpp.Http.HttpClient
import NakamaCpp.Rest.ReqError
import NakamaCpp.Rest.RestClient

/-!
# Responses of the REST client

Model of `onResponse` in src/RestClient.cpp and of the constructor in
src/DefaultSession.cpp: what a response makes the client call.  The JSON libraries and
the base64 decoder are parameters.  `none` is a failed assertion of rapidjson: the text is
no object, a member is not there, or a number is not of the type that is asked for.

    status ≠ 200  →  (the error is handled  ↔  the body is readable)          (errorHandled_iff)
-/

namespace NakamaCpp.Rest

open JsonText Http

/-- The message of `nakama::api` that a response is parsed into. -/
inductive ResponseType
  | Session | Account | Users | FriendList | Group | GroupUserList | GroupList | UserGroupList
  | LeaderboardRecordList | LeaderboardRecord | MatchList | NotificationList | ChannelMessageList
  | TournamentList | TournamentRecordList | StorageObjectList | StorageObjectAcks | StorageObjects
  | Rpc
deriving DecidableEq, Repr

/-- The message for the body, of an operation that has one. -/
def ClientOp.responseType : ClientOp → Option ResponseType
  | .authenticateDevice .. | .authenticateEmail .. | .authenticateFacebook ..
  | .authenticateGoogle .. | .authenticateGameCenter .. | .authenticateCustom ..
  | .authenticateSteam .. => some .Session
  | .getAccount .. => some .Account
  | .getUsers .. => some .Users
  | .listFriends .. => some .FriendList
  | .createGroup .. => some .Group
  | .listGroupUsers .. => some .GroupUserList
  | .listGroups .. => some .GroupList
  | .listOwnGroups .. | .listUserGroups .. => some .UserGroupList
  | .listLeaderboardRecords .. | .listLeaderboardRecordsAroundOwner .. => some .LeaderboardRecordList
  | .writeLeaderboardRecord .. | .writeTournamentRecord .. => some .LeaderboardRecord
  | .listMatches .. => some .MatchList
  | .listNotifications .. => some .NotificationList
  | .listChannelMessages .. => some .ChannelMessageList
  | .listTournaments .. => some .TournamentList
  | .listTournamentRecords .. | .listTournamentRecordsAroundOwner .. => some .TournamentRecordList
  | .listStorageObjects .. | .listUsersStorageObjects .. => some .StorageObjectList
  | .writeStorageObjects .. => some .StorageObjectAcks
  | .readStorageObjects .. => some .StorageObjects
  | .rpc .. | .rpcWithKey .. => some .Rpc
  | _ => none

/-- The parsers that the client calls. -/
structure JsonLib where
  /-- `rapidjson::Document::Parse`, unless there is a parse error -/
  parse : String → Option Json
  /-- `google::protobuf::util::JsonStringToMessage`: the status if it is not ok -/
  toMessage : ResponseType → String → Option String
  /-- the `token` of the session that a body is parsed into -/
  sessionToken : String → String
  base64Decode : String → String

/-- What `onResponse` reads of a context: whether it has its callbacks, and the message for
the body. -/
structure RestContext where
  successCallback : Bool
  errorCallback : Bool
  data : Option ResponseType
deriving DecidableEq, Repr

namespace DefaultSession

/-- Whether `DefaultSession` can be built from a token: the expiry time in the payload of
the token is read as a `uint64_t`. -/
def built (json : JsonLib) (token : String) : Bool :=
  match token.splitOn "." with
  | _ :: payload :: _ :: _ =>
    match json.parse (json.base64Decode payload) with
    | none => true
    | some (.obj document) =>
      match document.lookup "exp" with
      | some (.int exp) => decide (0 ≤ exp ∧ exp < 2 ^ 64)
      | some (.dec _ _) => false
      | _ => true
    | some _ => false
  | _ => true

end DefaultSession

namespace RestClient

/-- Whether the success callback gets from the parsed body to the callback of the user. -/
def converts (json : JsonLib) (data : Option ResponseType) (body : String) : Bool :=
  match data with
  | some .Session => DefaultSession.built json (json.sessionToken body)
  | _ => true

/-- The error that the members of a JSON body describe. -/
def documentError (document : List (String × Json)) : Option NError := do
  let jsonMessage ← document.lookup "message"
  let jsonCode ← document.lookup "code"
  let errMessage :=
    match jsonMessage with
    | .str s => "message: " ++ cStr s
    | _ => ""
  match jsonCode with
  | .int serverErrCode =>
    if -2 ^ 31 ≤ serverErrCode ∧ serverErrCode < 2 ^ 31 then
      match grpcErrorCode serverErrCode with
      | some code => some { message := errMessage, code }
      | none => some { message := errMessage ++ "\ncode: " ++ toString serverErrCode }
    else none
  | .dec _ _ => none
  | _ => some { message := errMessage }

/-- The error of a response with another status than 200, as far as it says something. -/
def statusError (json : JsonLib) (response : NHttpResponse) : Option NError :=
  if response.statusCode = InternalStatusCodes.connectionError then
    some { message := "message: " ++ response.errorMessage, code := .connectionError }
  else if response.statusCode = InternalStatusCodes.cancelledByUser then
    some { message := "message: " ++ response.errorMessage, code := .cancelledByUser }
  else if response.body.toList.head? = some '{' then
    match json.parse response.body with
    | none => some { message := "Parse JSON failed: " ++ response.body, code := .internalError }
    | some (.obj document) => documentError document
    | some _ => none
  else some {}

/-- An error without a message gets one. -/
def withMessage (response : NHttpResponse) (error : NError) : NError :=
  if error.message = "" then
    { error with
      message := "message: " ++ response.errorMessage ++ "\nHTTP status: " ++
        toString response.statusCode ++ "\nbody: " ++ response.body }
  else error

/-- What `onResponse` calls for the context of request `q`, which it has found. -/
def responseCalls (json : JsonLib) (defaultErrorCallback : Bool) (q : Nat) (ctx : RestContext)
    (response : NHttpResponse) : Option (List ClientCall) :=
  if response.statusCode = 200 then
    if ctx.successCallback then
      match ctx.data.bind fun data => json.toMessage data response.body with
      | some status =>
        some (Rest.reqError (own q ctx.errorCallback) defaultErrorCallback
          { message := "Parse JSON failed. HTTP body: " ++ response.body ++ " error: " ++ status
            code := .internalError })
      | none => if converts json ctx.data response.body then some [.success q] else none
    else some []
  else
    (statusError json response).map fun error =>
      Rest.reqError (own q ctx.errorCallback) defaultErrorCallback (withMessage response error)

/-! ## What a response gives -/

/-- The body is no JSON object, or one with a message and a code. -/
def GoodBody (json : JsonLib) (body : String) : Prop :=
  body.toList.head? ≠ some '{' ∨ json.parse body = none ∨
    ∃ document message code, json.parse body = some (.obj document) ∧
      document.lookup "message" = some (.str message) ∧ document.lookup "code" = some (.int code) ∧
      -2 ^ 31 ≤ code ∧ code < 2 ^ 31

/-- The body is not needed, or it can be parsed. -/
def Parses (json : JsonLib) (data : Option ResponseType) (body : String) : Prop :=
  ∀ type, data = some type → json.toMessage type body = none

/-- What a response should give to request `q`. -/
def Answered (json : JsonLib) (q : Nat) (successCallback errorCallback : Bool)
    (data : Option ResponseType) (defaultErrorCallback : Bool) (response : NHttpResponse)
    (calls : List ClientCall) : Prop :=
  if response.statusCode = 200 then
    if successCallback then
      (Parses json data response.body → calls = [.success q]) ∧
        (¬ Parses json data response.body → ErrorGiven q errorCallback defaultErrorCallback calls)
    else calls = []
  else ErrorGiven q errorCallback defaultErrorCallback calls

/-- Where a session is asked for and the body gives one, `DefaultSession` can be built from it. -/
def GoodSession (json : JsonLib) (successCallback : Bool) (data : Option ResponseType)
    (response : NHttpResponse) : Prop :=
  response.statusCode = 200 → successCallback = true → Parses json data response.body →
    converts json data response.body = true

theorem parses_iff (json : JsonLib) (data : Option ResponseType) (body : String) :
    Parses json data body ↔ (data.bind fun data => json.toMessage data body) = none := by
  rw [Option.bind_eq_none_iff]
  exact Iff.rfl

theorem statusError_isSome {json : JsonLib} {response : NHttpResponse}
    (h : GoodBody json response.body) : ∃ error, statusError json response = some error := by
  unfold statusError
  split
  · exact ⟨_, rfl⟩
  · split
    · exact ⟨_, rfl⟩
    · split
      · next hbrace =>
        rcases h with h | h | ⟨document, message, code, hdoc, hmessage, hcode, hrange⟩
        · exact absurd hbrace h
        · rw [h]
          exact ⟨_, rfl⟩
        · rw [hdoc]
          simp only [documentError, hmessage, hcode, Option.bind_eq_bind, Option.bind_some]
          rw [if_pos hrange]
          split <;> exact ⟨_, rfl⟩
      · exact ⟨_, rfl⟩

/-- The calls of `onResponse` are what the response should give. -/
theorem responseCalls_answered {json : JsonLib} {defaultErrorCallback : Bool} {q : Nat}
    {ctx : RestContext} {response : NHttpResponse} {calls : List ClientCall}
    (h : responseCalls json defaultErrorCallback q ctx response = some calls) :
    Answered json q ctx.successCallback ctx.errorCallback ctx.data defaultErrorCallback
      response calls := by
  have hgiven := errorGiven_reqError q ctx.errorCallback defaultErrorCallback
  unfold responseCalls at h
  unfold Answered
  by_cases hs : response.statusCode = 200
  · rw [if_pos hs] at h ⊢
    cases hsuccess : ctx.successCallback with
    | false =>
      rw [hsuccess] at h
      exact (Option.some.inj h).symm
    | true =>
      rw [hsuccess, if_pos rfl] at h
      rw [if_pos rfl, parses_iff]
      split at h
      · next status hstatus =>
        obtain rfl := Option.some.inj h
        refine ⟨fun hp => ?_, fun _ => hgiven _⟩
        rw [hp] at hstatus
        cases hstatus
      · next hnone =>
        split at h
        · obtain rfl := Option.some.inj h
          exact ⟨fun _ => rfl, fun hp => absurd hnone hp⟩
        · cases h
  · rw [if_neg hs] at h ⊢
    obtain ⟨error, -, rfl⟩ := Option.map_eq_some_iff.1 h
    exact hgiven _

theorem responseCalls_isSome {json : JsonLib} (defaultErrorCallback : Bool) (q : Nat)
    (ctx : RestContext) {response : NHttpResponse} (hsession : GoodSession json ctx.successCallback ctx.data response)
    (hbody : response.statusCode ≠ 200 → GoodBody json response.body) :
    ∃ calls, responseCalls json defaultErrorCallback q ctx response = some calls := by
  unfold responseCalls
  by_cases hs : response.statusCode = 200
  · rw [if_pos hs]
    split
    · next hsuccess =>
      split
      · exact ⟨_, rfl⟩
      · next hnone =>
        rw [if_pos (hsession hs hsuccess ((parses_iff json _ _).2 hnone))]
        exact ⟨_, rfl⟩
    · exact ⟨_, rfl⟩
  · rw [if_neg hs]
    obtain ⟨error, herror⟩ := statusError_isSome (hbody hs)
    rw [herror]
    exact ⟨_, rfl⟩

theorem Answered.length_le {json : JsonLib} {q : Nat} {successCallback errorCallback : Bool}
    {data : Option ResponseType} {defaultErrorCallback : Bool} {response : NHttpResponse}
    {calls : List ClientCall}
    (h : Answered json q successCallback errorCallback data defaultErrorCallback response calls) :
    calls.length ≤ 1 := by
  unfold Answered at h
  split at h
  · split at h
    · by_cases hp : Parses json data response.body
      · rw [h.1 hp]
        exact le_rfl
      · exact (h.2 hp).length_le
    · rw [h]
      exact Nat.zero_le 1
  · exact h.length_le

/-! ## Errors with any body -/

/-- `GetInt` may be called when `IsNumber` holds. -/
def CodeReadable : Json → Prop
  | .int n => -2 ^ 31 ≤ n ∧ n < 2 ^ 31
  | .dec _ _ => False
  | _ => True

/-- Every member that is asked for is there, and read as what it is. -/
def DocumentReadable (document : List (String × Json)) : Prop :=
  ∃ message code, document.lookup "message" = some message ∧
    document.lookup "code" = some code ∧ CodeReadable code

/-- The body is not looked into, or it is no JSON, or it is an object that can be read. -/
def BodyReadable (json : JsonLib) (response : NHttpResponse) : Prop :=
  response.statusCode = InternalStatusCodes.connectionError ∨
    response.statusCode = InternalStatusCodes.cancelledByUser ∨
    response.body.toList.head? ≠ some '{' ∨ json.parse response.body = none ∨
    ∃ document, json.parse response.body = some (.obj document) ∧ DocumentReadable document

/-- No accessor is called outside its precondition, and one error callback is called. -/
def ErrorHandled (json : JsonLib) (defaultErrorCallback : Bool) (q : Nat) (ctx : RestContext)
    (response : NHttpResponse) : Prop :=
  ∃ calls, responseCalls json defaultErrorCallback q ctx response = some calls ∧
    ErrorGiven q ctx.errorCallback defaultErrorCallback calls

theorem documentError_isSome_iff (document : List (String × Json)) :
    (documentError document).isSome = true ↔ DocumentReadable document := by
  unfold documentError DocumentReadable
  cases hmessage : document.lookup "message" with
  | none => simp
  | some message =>
    cases hcode : document.lookup "code" with
    | none => simp
    | some code =>
      simp only [Option.bind_eq_bind, Option.bind_some, Option.some.injEq, exists_and_left,
        exists_eq_left']
      cases code with
      | int n =>
        show (if _ then _ else none : Option NError).isSome = true ↔ _ ∧ _
        by_cases hn : -2 ^ 31 ≤ n ∧ n < 2 ^ 31
        · rw [if_pos hn]
          apply iff_of_true _ hn
          split <;> rfl
        · rw [if_neg hn]
          exact iff_of_false (by decide) hn
      | dec m e => exact iff_of_false (by simp) not_false
      | _ => exact iff_of_true rfl trivial

theorem statusError_isSome_iff (json : JsonLib) (response : NHttpResponse) :
    (statusError json response).isSome = true ↔ BodyReadable json response := by
  unfold statusError BodyReadable
  by_cases hconnection : response.statusCode = InternalStatusCodes.connectionError
  · simp [hconnection]
  · by_cases hcancelled : response.statusCode = InternalStatusCodes.cancelledByUser
    · rw [if_neg hconnection, if_pos hcancelled]
      exact iff_of_true rfl (.inr (.inl hcancelled))
    · rw [if_neg hconnection, if_neg hcancelled]
      by_cases hbrace : response.body.toList.head? = some '{'
      · rw [if_pos hbrace]
        cases hparse : json.parse response.body with
        | none => simp
        | some value =>
          cases value with
          | obj document =>
            simp only [documentError_isSome_iff, hconnection, hcancelled, hbrace, ne_eq,
              not_true_eq_false, false_or, reduceCtorEq, Option.some.injEq, Json.obj.injEq,
              exists_eq_left']
          | _ => simp [hconnection, hcancelled, hbrace]
      · simp [hbrace]

/-- **Error bodies.**  A response with another status than 200 is handled, with one error
callback and within the accessors' preconditions, exactly when its body is readable. -/
theorem errorHandled_iff (json : JsonLib) (defaultErrorCallback : Bool) (q : Nat)
    (ctx : RestContext) (response : NHttpResponse) (hstatus : response.statusCode ≠ 200) :
    ErrorHandled json defaultErrorCallback q ctx response ↔ BodyReadable json response := by
  rw [← statusError_isSome_iff]
  constructor
  · rintro ⟨calls, hcalls, -⟩
    unfold responseCalls at hcalls
    rw [if_neg hstatus] at hcalls
    obtain ⟨error, herror, -⟩ := Option.map_eq_some_iff.1 hcalls
    rw [herror]
    rfl
  · intro h
    obtain ⟨error, herror⟩ := Option.isSome_iff_exists.1 h
    refine ⟨_, ?_, errorGiven_reqError q ctx.errorCallback defaultErrorCallback
      (withMessage response error)⟩
    unfold responseCalls
    rw [if_neg hstatus, herror]
    rfl

/-- Libraries to which the only object is the empty one. -/
def emptyObjectJson : JsonLib where
  parse body := if body = "\x7b\x7d" then some (.obj []) else none
  toMessage _ _ := none
  sessionToken := id
  base64Decode := id

theorem errorHandled_iff_html :
    ErrorHandled emptyObjectJson true 0 ⟨true, false, some .Account⟩
      { statusCode := 502, body := "<html>" } := by
  have hstatus : ({ statusCode := 502, body := "<html>" } : NHttpResponse).statusCode ≠ 200 := by
    decide
  have hbody : BodyReadable emptyObjectJson { statusCode := 502, body := "<html>" } :=
    .inr (.inr (.inl (by decide)))
  exact (errorHandled_iff emptyObjectJson true 0 ⟨true, false, some .Account⟩ _ hstatus).2 hbody

/-- A body without a message: `document["message"]` is no member. -/
theorem error_not_handled :
    responseCalls emptyObjectJson true 0 ⟨true, true, some .Account⟩
        { statusCode := 500, body := "\x7b\x7d" } = none ∧
    ¬ ErrorHandled emptyObjectJson true 0 ⟨true, true, some .Account⟩
      { statusCode := 500, body := "\x7b\x7d" } := by
  have hcalls : responseCalls emptyObjectJson true 0 ⟨true, true, some .Account⟩
      { statusCode := 500, body := "\x7b\x7d" } = none := by decide
  refine ⟨hcalls, ?_⟩
  rintro ⟨calls, h, -⟩
  rw [hcalls] at h
  cases h

end RestClient

end NakamaCpp.Rest
