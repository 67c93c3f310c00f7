import NakamaCpp.Rest.RestClient
import NakamaCpp.Rest.GrpcClient

/-!
# Do the two clients send the same request?

The HTTP request of the REST client, read by the HTTP rule of the RPC that the gRPC
client calls, against the message that the gRPC client gives to that RPC.

    IdsUnreserved op → (SameRequest basicAuth op ↔ op.Agree)          (sameRequest_iff)

`Agree` excludes what the two do differently: `import` and `cursor` are the names of
no field of their requests, a `uint64_t` timestamp and a negative limit do not fit the
field, and `c_str()` cuts a key at its first NUL.
-/

namespace NakamaCpp.Rest

open Transcode JsonText

/-! ## The same request -/

/-- The method tokens of `NHttpClientCppRest::request`. -/
def NHttpReqMethod.token : NHttpReqMethod → String
  | GET => "GET"
  | POST => "POST"
  | PUT => "PUT"
  | DEL => "DELETE"

def NHttpRequest.wire (r : NHttpRequest) : HttpRequest :=
  { method := r.method.token, path := r.path, query := r.queryArgs, body := r.body }

/-- By the rule of the RPC of the call, the request is the message of the call. -/
def NHttpRequest.Matches (r : NHttpRequest) (c : Call) : Prop :=
  transcode c.rpc r.wire = some c.request

/-- Both clients send, and the server reads the same message, or neither sends. -/
def SameRequest (basicAuth : String) (op : ClientOp) : Prop :=
  match RestClient.request basicAuth op, GrpcClient.call basicAuth op with
  | some r, some c => r.Matches c
  | none, none => True
  | _, _ => False

/-- No key contains a NUL. -/
def NulFree (vars : NStringMap) : Prop := ∀ p ∈ vars.toList, '\x00' ∉ p.1.toList

/-- The timestamp is an `int64` as well. -/
def GameCenterCredentials.InRange (player : GameCenterCredentials) : Prop :=
  player.timestampSeconds.toNat < 2 ^ 63

def NonNegative (limit : Option Int32) : Prop := ∀ n ∈ limit, 0 ≤ n.toInt

instance (limit : Option Int32) : Decidable (NonNegative limit) :=
  inferInstanceAs (Decidable (∀ n ∈ limit, 0 ≤ n.toInt))

/-- What makes the two requests equal. -/
def ClientOp.Agree : ClientOp → Prop
  | .authenticateDevice _ _ _ vars => NulFree vars
  | .authenticateEmail _ _ _ _ vars => NulFree vars
  | .authenticateFacebook _ _ _ _ _ => False
  | .authenticateGoogle _ _ _ vars => NulFree vars
  | .authenticateGameCenter player _ _ vars => player.InRange ∧ NulFree vars
  | .authenticateCustom _ _ _ vars => NulFree vars
  | .authenticateSteam _ _ _ vars => NulFree vars
  | .linkFacebook _ _ importFriends => importFriends = none
  | .linkGameCenter _ player => player.InRange
  | .unlinkGameCenter _ player => player.InRange
  | .listLeaderboardRecordsAroundOwner _ _ _ limit => NonNegative limit
  | .listTournamentRecordsAroundOwner _ _ _ limit => NonNegative limit
  | .listNotifications _ _ cacheableCursor => cacheableCursor.getD "" = ""
  | _ => True

/-! ## Decoding what the REST client writes -/

theorem getLast?_toList {α : Type} (o : Option α) : o.toList.getLast? = o := by
  cases o <;> rfl

theorem text_string (s : String) :
    (FieldType.scalar .string).ofTexts [s] = some (.scalar (.string s)) :=
  ofTexts_scalar (ofText_string s)

theorem text_boolValue (b : Bool) :
    (FieldType.wrapper .bool).ofTexts [if b then "true" else "false"] =
      some (.wrapper (some (.bool b))) :=
  ofTexts_wrapper (ofText_bool b)

theorem texts_string (o : Option String) :
    (FieldType.scalar .string).ofTexts o.toList = some (.scalar (.string (o.getD ""))) := by
  cases o <;> rfl

theorem texts_stringValue (o : Option String) :
    (FieldType.wrapper .string).ofTexts o.toList = some (.wrapper (o.map .string)) := by
  cases o <;> rfl

theorem texts_boolValue (o : Option Bool) :
    (FieldType.wrapper .bool).ofTexts (o.map fun b => if b then "true" else "false").toList =
      some (.wrapper (o.map .bool)) :=
  ofTexts_wrapper? ofText_bool o

theorem texts_int32Value (o : Option Int32) :
    (FieldType.wrapper .int32).ofTexts (o.map toString).toList = some (.wrapper (o.map .int32)) :=
  ofTexts_wrapper? ofText_int32 o

theorem texts_uint32Value (o : Option UInt32) :
    (FieldType.wrapper .uint32).ofTexts (o.map toString).toList = some (.wrapper (o.map .uint32)) :=
  ofTexts_wrapper? ofText_uint32 o

/-- The limit of a list around an owner: a text of an `int32_t`, a field of `uint32`. -/
theorem texts_limit (limit : Option Int32) :
    (FieldType.wrapper .uint32).ofTexts (limit.map toString).toList =
      if NonNegative limit then some (.wrapper (limit.map fun n => .uint32 n.toUInt32))
      else none := by
  cases limit with
  | none => rw [if_pos (show NonNegative none from fun _ h => absurd h (by simp))]; rfl
  | some n =>
    have hiff : NonNegative (some n) ↔ 0 ≤ n.toInt := by simp [NonNegative]
    show ((ScalarType.uint32.ofText (toString n)).map fun v => Value.wrapper (some v)) = _
    rw [ofText_uint32_int32]
    by_cases h : 0 ≤ n.toInt
    · have hn : UInt32.ofNat n.toInt.toNat = n.toUInt32 := by
        rw [← UInt32.ofNat_toNat (x := n.toUInt32),
          Int32.toNat_toUInt32_of_le (Int32.le_iff_toInt_le.2 h)]
        rfl
      rw [if_pos h, if_pos (hiff.2 h), hn]
      rfl
    · rw [if_neg h, if_neg (mt hiff.1 h)]
      rfl

theorem json_string (o : Option String) :
    (FieldType.scalar .string).ofJson? (o.map Json.str) = some (.scalar (.string (o.getD ""))) := by
  cases o <;> rfl

theorem json_stringValue (o : Option String) :
    (FieldType.wrapper .string).ofJson? (o.map Json.str) = some (.wrapper (o.map .string)) :=
  ofJson?_wrapper ofJson_string o

theorem json_boolValue (o : Option Bool) :
    (FieldType.wrapper .bool).ofJson? (o.map Json.bool) = some (.wrapper (o.map .bool)) :=
  ofJson?_wrapper ofJson_bool o

theorem json_int32Value (o : Option Int32) :
    (FieldType.wrapper .int32).ofJson? (o.map fun n => Json.int n.toInt) =
      some (.wrapper (o.map .int32)) :=
  ofJson?_wrapper ofJson_int32 o

theorem json_int32 (o : Option Int32) :
    (FieldType.scalar .int32).ofJson? (o.map fun n => Json.int n.toInt) =
      some (.scalar ((o.map .int32).getD (.int32 0))) :=
  ofJson?_scalar ofJson_int32 o

theorem json_int64 (o : Option Int64) :
    (FieldType.scalar .int64).ofJson? (o.map fun n => Json.str (toString n)) =
      some (.scalar ((o.map .int64).getD (.int64 0))) :=
  ofJson?_scalar ofJson_int64 o

/-! ## The setters of the gRPC client -/

theorem getD_stringField (o : Option String) :
    (o.map stringField).getD (.scalar (.string "")) = .scalar (.string (o.getD "")) := by
  cases o <;> rfl

theorem getD_stringValue (o : Option String) :
    (o.map stringValue).getD (.wrapper none) = .wrapper (o.map .string) := by
  cases o <;> rfl

theorem getD_boolValue (o : Option Bool) :
    (o.map boolValue).getD (.wrapper none) = .wrapper (o.map .bool) := by
  cases o <;> rfl

theorem getD_int32Value (o : Option Int32) :
    (o.map int32Value).getD (.wrapper none) = .wrapper (o.map .int32) := by
  cases o <;> rfl

theorem getD_uint32Value (o : Option UInt32) :
    (o.map uint32Value).getD (.wrapper none) = .wrapper (o.map .uint32) := by
  cases o <;> rfl

/-! ## Bodies -/

theorem members_all {b : HttpBinding} (h : b.body = .all) (document : List (String × Json)) :
    b.members (jsonDocToStr document) = some document := by
  unfold HttpBinding.members jsonDocToStr
  rw [h, parse_text]

theorem members_field {b : HttpBinding} {name : String} (h : b.body = .field name)
    (document : List (String × Json)) :
    b.members (jsonDocToStr document) = some [(name, .obj document)] := by
  unfold HttpBinding.members jsonDocToStr
  rw [h, parse_text]
  rfl

theorem members_none {b : HttpBinding} (h : b.body = .none) (body : String) :
    b.members body = some [] := by
  unfold HttpBinding.members
  rw [h]

/-! ## Paths -/

theorem segments_id {pre id : String} (segs : List String) (h : pathSegments pre = segs ++ [""])
    (hid : Unreserved id) : pathSegments (pre ++ id) = segs ++ [id] := by
  rw [pathSegments_append h (pathSegments_unreserved hid), String.empty_append]

theorem segments_id_tail {pre id post : String} (segs : List String) {tail : List String}
    (h : pathSegments pre = segs ++ [""]) (hid : Unreserved id)
    (ht : pathSegments post = "" :: tail) : pathSegments (pre ++ id ++ post) = segs ++ id :: tail := by
  rw [pathSegments_append (segments_id segs h hid) ht, String.append_empty]

theorem segments_owner {pre id owner : String} (segs : List String)
    (h : pathSegments pre = segs ++ [""]) (hid : Unreserved id) (howner : Unreserved owner) :
    pathSegments (pre ++ id ++ "/owner/" ++ owner) = segs ++ [id, "owner", owner] := by
  have ht : pathSegments "/owner/" = "" :: ["owner", ""] := by decide
  have hpre : pathSegments (pre ++ id ++ "/owner/") = (segs ++ [id, "owner"]) ++ [""] := by
    rw [segments_id_tail segs h hid ht, List.append_assoc]
    rfl
  rw [segments_id _ hpre howner, List.append_assoc]
  rfl

theorem segments_group {groupId : String} (h : Unreserved groupId) :
    pathSegments ("/v2/group/" ++ groupId) = ["", "v2", "group", groupId] :=
  segments_id ["", "v2", "group"] (by decide) h

theorem segments_group_action {groupId : String} (h : Unreserved groupId) (post action : String)
    (hp : pathSegments post = ["", action]) :
    pathSegments ("/v2/group/" ++ groupId ++ post) = ["", "v2", "group", groupId, action] :=
  segments_id_tail ["", "v2", "group"] (by decide) h hp

theorem segments_leaderboard {leaderboardId : String} (h : Unreserved leaderboardId) :
    pathSegments ("/v2/leaderboard/" ++ leaderboardId) = ["", "v2", "leaderboard", leaderboardId] :=
  segments_id ["", "v2", "leaderboard"] (by decide) h

theorem segments_tournament {tournamentId : String} (h : Unreserved tournamentId) :
    pathSegments ("/v2/tournament/" ++ tournamentId) = ["", "v2", "tournament", tournamentId] :=
  segments_id ["", "v2", "tournament"] (by decide) h

theorem segments_storage {collection : String} (h : Unreserved collection) :
    pathSegments ("/v2/storage/" ++ collection) = ["", "v2", "storage", collection] :=
  segments_id ["", "v2", "storage"] (by decide) h

/-! ## Vars -/

/-- The vars as they arrive from the REST client. -/
def restVars (vars : NStringMap) : StringMap :=
  StringMap.ofEntries (vars.toList.map fun p => (cStr p.1, p.2))

def grpcVars (vars : NStringMap) : StringMap := StringMap.ofEntries vars.toList

/-- The same vars arrive from both clients if and only if no key is cut. -/
theorem restVars_eq_iff (vars : NStringMap) : restVars vars = grpcVars vars ↔ NulFree vars := by
  unfold restVars grpcVars
  constructor
  · intro h p hp hnul
    have hk : p.1 ∈ StringMap.ofEntries vars.toList := (StringMap.mem_ofEntries _ _).2 ⟨p, hp, rfl⟩
    rw [← h, StringMap.mem_ofEntries] at hk
    obtain ⟨e, he, hek⟩ := hk
    obtain ⟨q, -, rfl⟩ := List.mem_map.1 he
    rw [← hek] at hnul
    exact nul_not_mem_cStr q.1 hnul
  · intro h
    have hmap : (vars.toList.map fun p => (cStr p.1, p.2)) = vars.toList := by
      conv_rhs => rw [← List.map_id vars.toList]
      exact List.map_congr_left fun p hp => by rw [cStr_eq_self (h p hp)]; rfl
    rw [hmap]

theorem json_vars (vars : NStringMap) :
    FieldType.stringMap.ofJson? (varsJson vars) = some (.stringMap (restVars vars)) := by
  unfold varsJson
  by_cases h : vars.isEmpty = true
  · have hl : vars.toList = [] := by
      rw [← List.isEmpty_iff, Std.ExtTreeMap.isEmpty_toList, h]
    rw [if_pos h]
    unfold restVars
    rw [hl]
    rfl
  · have he : ∀ p : String × String,
        stringEntry (cStr p.1, Json.str p.2) = some (cStr p.1, p.2) := fun _ => rfl
    have hm := mapM_map (f := fun p : String × String => (cStr p.1, Json.str p.2)) he vars.toList
    rw [if_neg h, ofJson?_some, FieldType.ofJson]
    simp only [hm, Option.map_some]
    rfl

attribute [local simp] transcode HttpBinding.vars HttpBinding.message matchPath
  NHttpRequest.wire NHttpRequest.Matches NHttpReqMethod.token sendReq
  optArg optBoolArg optInt32Arg optUInt32Arg stateArg optMember optStringMember optInt32Member
  ApiGrpc.get ApiGrpc.post ApiGrpc.put ApiGrpc.delete
  members_all members_field members_none known_named field_path field_json field_all field_query
  ofTexts_nil text_string text_boolValue
  texts_string texts_stringValue texts_boolValue texts_int32Value texts_uint32Value
  json_string json_stringValue json_boolValue json_int32Value json_int32 json_int64
  getD_stringField getD_stringValue getD_boolValue getD_int32Value getD_uint32Value
  getLast?_toList ofMembers_nil ofMembers_cons ofJson?_some ofJson?_none FieldType.ofJson
  Message.new Message.set Message.setOpt FieldType.default ScalarType.default
  stringField stringsField stringValue boolValue int32Value uint32Value

/-! ## Accounts -/

/-- The document of an account decodes to the account of the gRPC client, with and
without vars; with vars, to the ones that the REST client sends. -/
structure AccountDecodes (fields : Fields) (document : List (String × Json)) (account : Message) :
    Prop where
  plain : Decodes fields document account
  vars : ∀ vars, Decodes fields (document ++ varsMember vars)
    (account.set "vars" (.stringMap (restVars vars)))
  vars_inj : ∀ m m', account.set "vars" (.stringMap m) = account.set "vars" (.stringMap m') → m = m'

theorem accountDevice_decodes (id : String) :
    AccountDecodes ApiGrpc.accountDevice [("id", .str id)] (GrpcClient.accountDevice id) := by
  refine ⟨⟨?_, ?_⟩, fun vars => ⟨?_, ?_⟩, fun m m' => ?_⟩ <;>
    simp [ApiGrpc.accountDevice, varsMember, GrpcClient.accountDevice, json_vars]

theorem accountCustom_decodes (id : String) :
    AccountDecodes ApiGrpc.accountCustom [("id", .str id)] (GrpcClient.accountCustom id) :=
  accountDevice_decodes id

theorem accountEmail_decodes (email password : String) :
    AccountDecodes ApiGrpc.accountEmail [("email", .str email), ("password", .str password)]
      (GrpcClient.accountEmail email password) := by
  refine ⟨⟨?_, ?_⟩, fun vars => ⟨?_, ?_⟩, fun m m' => ?_⟩ <;>
    simp [ApiGrpc.accountEmail, varsMember, GrpcClient.accountEmail, json_vars]

theorem accountFacebook_decodes (token : String) :
    AccountDecodes ApiGrpc.accountFacebook [("token", .str token)]
      (GrpcClient.accountFacebook token) := by
  refine ⟨⟨?_, ?_⟩, fun vars => ⟨?_, ?_⟩, fun m m' => ?_⟩ <;>
    simp [ApiGrpc.accountFacebook, varsMember, GrpcClient.accountFacebook, json_vars]

theorem accountGoogle_decodes (token : String) :
    AccountDecodes ApiGrpc.accountGoogle [("token", .str token)] (GrpcClient.accountGoogle token) :=
  accountFacebook_decodes token

theorem accountSteam_decodes (token : String) :
    AccountDecodes ApiGrpc.accountSteam [("token", .str token)] (GrpcClient.accountSteam token) :=
  accountFacebook_decodes token

/-- An `int64` field reads a `uint64_t` number as the conversion of the gRPC client does,
or not at all. -/
theorem json_timestamp (n : UInt64) :
    ScalarType.int64.ofJson (.int n.toNat) =
      if n.toNat < 2 ^ 63 then some (.int64 n.toInt64) else none := by
  have h : Int64.ofNat n.toNat = n.toInt64 := by rw [← UInt64.toInt64_ofNat', UInt64.ofNat_toNat]
  rw [ofJson_int64_nat, h]

theorem accountGameCenter_decodes {player : GameCenterCredentials} (h : player.InRange) :
    AccountDecodes ApiGrpc.accountGameCenter (RestClient.gameCenterDocument player)
      (GrpcClient.accountGameCenter player) := by
  have ht := (json_timestamp player.timestampSeconds).trans (if_pos h)
  refine ⟨⟨?_, ?_⟩, fun vars => ⟨?_, ?_⟩, fun m m' => ?_⟩ <;>
    simp [ApiGrpc.accountGameCenter, varsMember, RestClient.gameCenterDocument,
      GrpcClient.accountGameCenter, json_vars, ht]

/-- Out of range, the account does not decode, whatever is added to it. -/
theorem accountGameCenter_none {player : GameCenterCredentials} (h : ¬ player.InRange)
    (vars : NStringMap) :
    ofMembers ApiGrpc.accountGameCenter (RestClient.gameCenterDocument player ++ varsMember vars) =
      none := by
  have ht := (json_timestamp player.timestampSeconds).trans (if_neg h)
  simp [ApiGrpc.accountGameCenter, varsMember, RestClient.gameCenterDocument, ht]

theorem varsMember_empty : varsMember ∅ = [] := rfl

/-! ## Authentication -/

section
variable {basicAuth path : String} {rpc : Rpc} {segs : List Segment} {fields : Fields}
  {document : List (String × Json)} {account : Message}

/-- What arrives of a request of the `authenticate` family, with further arguments that
name no field. -/
theorem authenticate_decodes (hb : rpc.http = [ApiGrpc.post segs (.field "account")])
    (hp : matchPath (.lit "" :: segs) (pathSegments path) = some [])
    (hi : rpc.input = [("account", .message fields), ("create", .wrapper .bool),
      ("username", .scalar .string)])
    (hd : AccountDecodes fields document account) (username : Option String) (create : Option Bool)
    (vars : NStringMap) :
    transcode rpc (RestClient.authenticate basicAuth path
        (optArg "username" username ++ optBoolArg "create" create) document vars).wire =
      some [("account", .message (some (account.set "vars" (.stringMap (restVars vars))))),
        ("create", .wrapper (create.map .bool)), ("username", .scalar (.string (username.getD "")))] := by
  have hv : (ApiGrpc.post segs (.field "account")).vars (RestClient.authenticate basicAuth path
      (optArg "username" username ++ optBoolArg "create" create) document vars).wire = some [] := hp
  rw [transcode_single hb hv (members_field rfl _), hi]
  simp [-FieldType.ofJson, RestClient.authenticate, ofJson_message (hd.vars vars)]

theorem authenticate_request (hi : rpc.input = [("account", .message fields),
      ("create", .wrapper .bool), ("username", .scalar .string)])
    (username : Option String) (create : Option Bool) (vars : NStringMap) :
    (GrpcClient.authenticate basicAuth rpc account username create vars).request =
      [("account", .message (some (account.set "vars" (.stringMap (grpcVars vars))))),
        ("create", .wrapper (create.map .bool)), ("username", .scalar (.string (username.getD "")))] := by
  simp [GrpcClient.authenticate, GrpcClient.withAccount, hi, varsField, grpcVars]

theorem authenticate_iff (hb : rpc.http = [ApiGrpc.post segs (.field "account")])
    (hp : matchPath (.lit "" :: segs) (pathSegments path) = some [])
    (hi : rpc.input = [("account", .message fields), ("create", .wrapper .bool),
      ("username", .scalar .string)])
    (hd : AccountDecodes fields document account) {username username' : Option String}
    (hu : username.getD "" = username'.getD "") (create : Option Bool) (vars : NStringMap) :
    (RestClient.authenticate basicAuth path
        (optArg "username" username ++ optBoolArg "create" create) document vars).Matches
        (GrpcClient.authenticate basicAuth rpc account username' create vars) ↔
      NulFree vars := by
  show transcode rpc _ = _ ↔ _
  rw [authenticate_decodes hb hp hi hd, authenticate_request hi, ← restVars_eq_iff, hu]
  constructor
  · intro h
    have hm := (List.cons.inj (Option.some.inj h)).1
    simp only [Prod.mk.injEq, Value.message.injEq, Option.some.injEq, true_and] at hm
    exact hd.vars_inj _ _ hm
  · intro h
    rw [h]

end

section
variable (basicAuth : String)

/-- The user name is an argument always, a field unless it is empty. -/
theorem getD_nonEmpty (username : String) :
    (some username).getD "" = (nonEmpty username).getD "" := (nonEmpty_getD username).symm

theorem authenticateDevice_same (id : String) (username : Option String) (create : Option Bool)
    (vars : NStringMap) :
    (RestClient.authenticateDevice basicAuth id username create vars).Matches
        (GrpcClient.authenticateDevice basicAuth id username create vars) ↔
      NulFree vars :=
  authenticate_iff rfl (by decide) rfl (accountDevice_decodes id) rfl create vars

theorem authenticateEmail_same (email password username : String) (create : Bool)
    (vars : NStringMap) :
    (RestClient.authenticateEmail basicAuth email password username create vars).Matches
        (GrpcClient.authenticateEmail basicAuth email password username create vars) ↔
      NulFree vars :=
  authenticate_iff rfl (by decide) rfl (accountEmail_decodes email password)
    (getD_nonEmpty username) (some create) vars

theorem authenticateGoogle_same (accessToken username : String) (create : Bool)
    (vars : NStringMap) :
    (RestClient.authenticateGoogle basicAuth accessToken username create vars).Matches
        (GrpcClient.authenticateGoogle basicAuth accessToken username create vars) ↔
      NulFree vars :=
  authenticate_iff rfl (by decide) rfl (accountGoogle_decodes accessToken)
    (getD_nonEmpty username) (some create) vars

theorem authenticateCustom_same (id username : String) (create : Bool) (vars : NStringMap) :
    (RestClient.authenticateCustom basicAuth id username create vars).Matches
        (GrpcClient.authenticateCustom basicAuth id username create vars) ↔
      NulFree vars :=
  authenticate_iff rfl (by decide) rfl (accountCustom_decodes id)
    (getD_nonEmpty username) (some create) vars

theorem authenticateSteam_same (token username : String) (create : Bool) (vars : NStringMap) :
    (RestClient.authenticateSteam basicAuth token username create vars).Matches
        (GrpcClient.authenticateSteam basicAuth token username create vars) ↔
      NulFree vars :=
  authenticate_iff rfl (by decide) rfl (accountSteam_decodes token)
    (getD_nonEmpty username) (some create) vars

/-- A timestamp from 2^63 on makes the body unreadable. -/
theorem authenticateGameCenter_same (player : GameCenterCredentials) (username : String)
    (create : Bool) (vars : NStringMap) :
    (RestClient.authenticateGameCenter basicAuth player username create vars).Matches
        (GrpcClient.authenticateGameCenter basicAuth player username create vars) ↔
      player.InRange ∧ NulFree vars := by
  by_cases h : player.InRange
  · rw [and_iff_right h]
    exact authenticate_iff rfl (by decide) rfl (accountGameCenter_decodes h)
      (getD_nonEmpty username) (some create) vars
  · have hj := ofJson_message_none (accountGameCenter_none h vars)
    have hp : pathSegments "/v2/account/authenticate/gamecenter" =
      ["", "v2", "account", "authenticate", "gamecenter"] := by decide
    have hnone : transcode ApiGrpc.authenticateGameCenter
        (RestClient.authenticateGameCenter basicAuth player username create vars).wire = none := by
      simp [-FieldType.ofJson, RestClient.authenticateGameCenter, RestClient.authenticate,
        ApiGrpc.authenticateGameCenter, ApiGrpc.authenticateGameCenterRequest, hp, hj]
    exact ⟨fun hn => absurd (hnone.symm.trans hn) (by simp), fun hn => absurd hn.1 h⟩

/-- The argument `import` names no field, and the gRPC client always sets `sync`. -/
theorem authenticateFacebook_ne (accessToken username : String) (create importFriends : Bool)
    (vars : NStringMap) :
    ¬ (RestClient.authenticateFacebook basicAuth accessToken username create importFriends
        vars).Matches
        (GrpcClient.authenticateFacebook basicAuth accessToken username create importFriends
          vars) := by
  have hp : pathSegments "/v2/account/authenticate/facebook" =
    ["", "v2", "account", "authenticate", "facebook"] := by decide
  have hj := ofJson_message ((accountFacebook_decodes accessToken).vars vars)
  rw [List.singleton_append] at hj
  simp [-FieldType.ofJson, RestClient.authenticateFacebook, RestClient.userArgs,
    RestClient.authenticate, GrpcClient.authenticateFacebook, GrpcClient.authenticate,
    GrpcClient.withAccount, ApiGrpc.authenticateFacebook, ApiGrpc.authenticateFacebookRequest, hp, hj]

end

/-! ## Links -/

section
variable (session : NSession)

/-- An account that is the whole body is the whole message. -/
theorem postAccount_decodes {rpc : Rpc} {path : String} {segs : List Segment}
    {document : List (String × Json)} (hb : rpc.http = [ApiGrpc.post segs .all])
    (hp : matchPath (.lit "" :: segs) (pathSegments path) = some [])
    (hk : known rpc.input document = true) :
    transcode rpc (RestClient.postAccount session path document).wire =
      ofMembers rpc.input document := by
  have hv : (ApiGrpc.post segs .all).vars (RestClient.postAccount session path document).wire =
    some [] := hp
  rw [transcode_single hb hv (members_all rfl _), message_all rfl _ hk]

theorem postAccount_same {rpc : Rpc} {path : String} {segs : List Segment}
    {document : List (String × Json)} {account : Message} (hb : rpc.http = [ApiGrpc.post segs .all])
    (hp : matchPath (.lit "" :: segs) (pathSegments path) = some [])
    (hd : AccountDecodes rpc.input document account) :
    (RestClient.postAccount session path document).Matches ⟨rpc, session.metadata, account⟩ :=
  (postAccount_decodes session hb hp hd.plain.1).trans hd.plain.2

theorem linkEmail_same (email password : String) :
    (RestClient.linkEmail session email password).Matches
      (GrpcClient.linkEmail session email password) :=
  postAccount_same session rfl (by decide) (accountEmail_decodes email password)

theorem linkDevice_same (id : String) :
    (RestClient.linkDevice session id).Matches (GrpcClient.linkDevice session id) :=
  postAccount_same session rfl (by decide) (accountDevice_decodes id)

theorem linkGoogle_same (accessToken : String) :
    (RestClient.linkGoogle session accessToken).Matches (GrpcClient.linkGoogle session accessToken) :=
  postAccount_same session rfl (by decide) (accountGoogle_decodes accessToken)

theorem linkSteam_same (token : String) :
    (RestClient.linkSteam session token).Matches (GrpcClient.linkSteam session token) :=
  postAccount_same session rfl (by decide) (accountSteam_decodes token)

theorem linkCustom_same (id : String) :
    (RestClient.linkCustom session id).Matches (GrpcClient.linkCustom session id) :=
  postAccount_same session rfl (by decide) (accountCustom_decodes id)

theorem unlinkFacebook_same (accessToken : String) :
    (RestClient.unlinkFacebook session accessToken).Matches
      (GrpcClient.unlinkFacebook session accessToken) :=
  postAccount_same session rfl (by decide) (accountFacebook_decodes accessToken)

theorem unlinkEmail_same (email password : String) :
    (RestClient.unlinkEmail session email password).Matches
      (GrpcClient.unlinkEmail session email password) :=
  postAccount_same session rfl (by decide) (accountEmail_decodes email password)

theorem unlinkGoogle_same (accessToken : String) :
    (RestClient.unlinkGoogle session accessToken).Matches
      (GrpcClient.unlinkGoogle session accessToken) :=
  postAccount_same session rfl (by decide) (accountGoogle_decodes accessToken)

theorem unlinkSteam_same (token : String) :
    (RestClient.unlinkSteam session token).Matches (GrpcClient.unlinkSteam session token) :=
  postAccount_same session rfl (by decide) (accountSteam_decodes token)

theorem unlinkDevice_same (id : String) :
    (RestClient.unlinkDevice session id).Matches (GrpcClient.unlinkDevice session id) :=
  postAccount_same session rfl (by decide) (accountDevice_decodes id)

theorem unlinkCustom_same (id : String) :
    (RestClient.unlinkCustom session id).Matches (GrpcClient.unlinkCustom session id) :=
  postAccount_same session rfl (by decide) (accountCustom_decodes id)

theorem postGameCenter_iff {rpc : Rpc} {path : String} {segs : List Segment}
    (hb : rpc.http = [ApiGrpc.post segs .all])
    (hp : matchPath (.lit "" :: segs) (pathSegments path) = some [])
    (hi : rpc.input = ApiGrpc.accountGameCenter) (player : GameCenterCredentials) :
    (RestClient.postAccount session path (RestClient.gameCenterDocument player)).Matches
        ⟨rpc, session.metadata, GrpcClient.accountGameCenter player⟩ ↔
      player.InRange := by
  by_cases h : player.InRange
  · exact iff_of_true (postAccount_same session hb hp (hi ▸ accountGameCenter_decodes h)) h
  · have hk : known rpc.input (RestClient.gameCenterDocument player) = true := by
      rw [hi]
      simp [ApiGrpc.accountGameCenter, RestClient.gameCenterDocument]
    have hnone := accountGameCenter_none h ∅
    rw [varsMember_empty, List.append_nil] at hnone
    refine iff_of_false (fun hm => ?_) h
    unfold NHttpRequest.Matches at hm
    rw [postAccount_decodes session hb hp hk, hi, hnone] at hm
    cases hm

theorem linkGameCenter_same (player : GameCenterCredentials) :
    (RestClient.linkGameCenter session player).Matches (GrpcClient.linkGameCenter session player) ↔
      player.InRange :=
  postGameCenter_iff session rfl (by decide) rfl player

theorem unlinkGameCenter_same (player : GameCenterCredentials) :
    (RestClient.unlinkGameCenter session player).Matches
        (GrpcClient.unlinkGameCenter session player) ↔
      player.InRange :=
  postGameCenter_iff session rfl (by decide) rfl player

/-- The argument `import` names no field here either. -/
theorem linkFacebook_same (accessToken : String) (importFriends : Option Bool) :
    (RestClient.linkFacebook session accessToken importFriends).Matches
        (GrpcClient.linkFacebook session accessToken importFriends) ↔
      importFriends = none := by
  have hp : pathSegments "/v2/account/link/facebook" = ["", "v2", "account", "link", "facebook"] := by
    decide
  have hj := ofJson_message (accountFacebook_decodes accessToken).plain
  cases importFriends <;>
    simp [-FieldType.ofJson, RestClient.linkFacebook, GrpcClient.linkFacebook,
      GrpcClient.withAccount, ApiGrpc.linkFacebook, ApiGrpc.linkFacebookRequest, hp, hj]

theorem importFacebookFriends_same (token : String) (reset : Option Bool) :
    (RestClient.importFacebookFriends session token reset).Matches
      (GrpcClient.importFacebookFriends session token reset) := by
  have hp : pathSegments "/v2/friend/facebook" = ["", "v2", "friend", "facebook"] := by decide
  have hj := ofJson_message (accountFacebook_decodes token).plain
  simp [-FieldType.ofJson, RestClient.importFacebookFriends, GrpcClient.importFacebookFriends,
    GrpcClient.withAccount, ApiGrpc.importFacebookFriends, ApiGrpc.importFacebookFriendsRequest,
    hp, hj]

/-! ## Users and friends -/

theorem getAccount_same :
    (RestClient.getAccount session).Matches (GrpcClient.getAccount session) := by
  have hp : pathSegments "/v2/account" = ["", "v2", "account"] := by decide
  simp [RestClient.getAccount, GrpcClient.getAccount, ApiGrpc.getAccount, hp]

theorem updateAccount_same
    (username displayName avatarUrl langTag location timezone : Option String) :
    (RestClient.updateAccount session username displayName avatarUrl langTag location
        timezone).Matches
      (GrpcClient.updateAccount session username displayName avatarUrl langTag location
        timezone) := by
  have hp : pathSegments "/v2/account" = ["", "v2", "account"] := by decide
  simp [RestClient.updateAccount, GrpcClient.updateAccount, ApiGrpc.updateAccount,
    ApiGrpc.updateAccountRequest, hp]

theorem getUsers_same (ids usernames facebookIds : List String) :
    (RestClient.getUsers session ids usernames facebookIds).Matches
      (GrpcClient.getUsers session ids usernames facebookIds) := by
  have hp : pathSegments "/v2/user" = ["", "v2", "user"] := by decide
  simp [RestClient.getUsers, GrpcClient.getUsers, ApiGrpc.getUsers, ApiGrpc.getUsersRequest, hp]

theorem friends_same {method : NHttpReqMethod} {path : String} {rpc : Rpc} {b : HttpBinding}
    (hb : rpc.http = [b]) (hm : b.method = method.token) (hn : b.body = .none)
    (hp : matchPath (.lit "" :: b.path) (pathSegments path) = some [])
    (hi : rpc.input = [("ids", .repeated .string), ("usernames", .repeated .string)])
    (ids usernames : List String) :
    (RestClient.friends session method path ids usernames).Matches
      (GrpcClient.friends session rpc ids usernames) := by
  have hv : b.vars (RestClient.friends session method path ids usernames).wire = some [] := by
    unfold HttpBinding.vars
    rw [hm]
    exact (if_pos rfl).trans hp
  show transcode rpc _ = _
  rw [transcode_single hb hv (members_none hn _), hi]
  simp [RestClient.friends, GrpcClient.friends, hi, hn]

theorem addFriends_same (ids usernames : List String) :
    (RestClient.addFriends session ids usernames).Matches
      (GrpcClient.addFriends session ids usernames) :=
  friends_same session rfl rfl rfl (by decide) rfl ids usernames

theorem deleteFriends_same (ids usernames : List String) :
    (RestClient.deleteFriends session ids usernames).Matches
      (GrpcClient.deleteFriends session ids usernames) :=
  friends_same session rfl rfl rfl (by decide) rfl ids usernames

theorem blockFriends_same (ids usernames : List String) :
    (RestClient.blockFriends session ids usernames).Matches
      (GrpcClient.blockFriends session ids usernames) :=
  friends_same session rfl rfl rfl (by decide) rfl ids usernames

theorem listFriends_same (limit : Option Int32) (state : Option NFriendState) (cursor : String) :
    (RestClient.listFriends session limit state cursor).Matches
      (GrpcClient.listFriends session limit state cursor) := by
  have hp : pathSegments "/v2/friend" = ["", "v2", "friend"] := by decide
  simp [-Option.map_map, RestClient.listFriends, RestClient.listByState, GrpcClient.listFriends,
    GrpcClient.setByState, ApiGrpc.listFriends, ApiGrpc.listFriendsRequest, hp]

/-! ## Groups -/

theorem createGroup_same (name description avatarUrl langTag : String) (isOpen : Bool)
    (maxCount : Option Int32) :
    (RestClient.createGroup session name description avatarUrl langTag isOpen maxCount).Matches
      (GrpcClient.createGroup session name description avatarUrl langTag isOpen maxCount) := by
  have hp : pathSegments "/v2/group" = ["", "v2", "group"] := by decide
  simp [RestClient.createGroup, GrpcClient.createGroup, ApiGrpc.createGroup,
    ApiGrpc.createGroupRequest, hp]

theorem listGroups_same (name : String) (limit : Int32) (cursor : String) :
    (RestClient.listGroups session name limit cursor).Matches
      (GrpcClient.listGroups session name limit cursor) := by
  have hp : pathSegments "/v2/group" = ["", "v2", "group"] := by decide
  simp [RestClient.listGroups, GrpcClient.listGroups, GrpcClient.withId, ApiGrpc.listGroups,
    ApiGrpc.listGroupsRequest, hp]

section
variable {groupId : String} (h : Unreserved groupId)
include h

theorem deleteGroup_same :
    (RestClient.deleteGroup session groupId).Matches (GrpcClient.deleteGroup session groupId) := by
  have hp := segments_group h
  have hd := percentDecode_unreserved h
  simp [RestClient.deleteGroup, GrpcClient.deleteGroup, GrpcClient.withId, ApiGrpc.deleteGroup,
    ApiGrpc.deleteGroupRequest, hp, hd]

theorem groupUsers_same {action name : String} {rpc : Rpc}
    (hb : rpc.http = [ApiGrpc.post ["v2", "group", .var "group_id", .lit name]])
    (hi : rpc.input = [("group_id", .scalar .string), ("user_ids", .repeated .string)])
    (ha : pathSegments action = ["", name]) (ids : List String) :
    (RestClient.groupUsers session groupId action ids).Matches
      (GrpcClient.groupUsers session rpc groupId ids) := by
  have hp := segments_group_action h action name ha
  have hd := percentDecode_unreserved h
  simp [RestClient.groupUsers, GrpcClient.groupUsers, GrpcClient.withId, hb, hi, hp, hd]

theorem addGroupUsers_same (ids : List String) :
    (RestClient.addGroupUsers session groupId ids).Matches
      (GrpcClient.addGroupUsers session groupId ids) :=
  groupUsers_same session h rfl rfl (by decide) ids

theorem kickGroupUsers_same (ids : List String) :
    (RestClient.kickGroupUsers session groupId ids).Matches
      (GrpcClient.kickGroupUsers session groupId ids) :=
  groupUsers_same session h rfl rfl (by decide) ids

theorem promoteGroupUsers_same (ids : List String) :
    (RestClient.promoteGroupUsers session groupId ids).Matches
      (GrpcClient.promoteGroupUsers session groupId ids) :=
  groupUsers_same session h rfl rfl (by decide) ids

theorem joinGroup_same :
    (RestClient.joinGroup session groupId).Matches (GrpcClient.joinGroup session groupId) := by
  have hp := segments_group_action h "/join" "join" (by decide)
  have hd := percentDecode_unreserved h
  simp [RestClient.joinGroup, GrpcClient.joinGroup, GrpcClient.withId, ApiGrpc.joinGroup,
    ApiGrpc.joinGroupRequest, hp, hd]

theorem leaveGroup_same :
    (RestClient.leaveGroup session groupId).Matches (GrpcClient.leaveGroup session groupId) := by
  have hp := segments_group_action h "/leave" "leave" (by decide)
  have hd := percentDecode_unreserved h
  simp [RestClient.leaveGroup, GrpcClient.leaveGroup, GrpcClient.withId, ApiGrpc.leaveGroup,
    ApiGrpc.leaveGroupRequest, hp, hd]

theorem listGroupUsers_same (limit : Option Int32) (state : Option NFriendState) (cursor : String) :
    (RestClient.listGroupUsers session groupId limit state cursor).Matches
      (GrpcClient.listGroupUsers session groupId limit state cursor) := by
  have hp := segments_group_action h "/user" "user" (by decide)
  have hd := percentDecode_unreserved h
  simp [-Option.map_map, RestClient.listGroupUsers, RestClient.listByState,
    GrpcClient.listGroupUsers, GrpcClient.setByState, GrpcClient.withId, ApiGrpc.listGroupUsers,
    ApiGrpc.listGroupUsersRequest, hp, hd]

theorem updateGroup_same (name description avatarUrl langTag : Option String)
    (isOpen : Option Bool) :
    (RestClient.updateGroup session groupId name description avatarUrl langTag isOpen).Matches
      (GrpcClient.updateGroup session groupId name description avatarUrl langTag isOpen) := by
  have hp := segments_group h
  have hd := percentDecode_unreserved h
  simp [RestClient.updateGroup, GrpcClient.updateGroup, GrpcClient.withId, ApiGrpc.updateGroup,
    ApiGrpc.updateGroupRequest, hp, hd]

end

theorem listUserGroups_same {userId : String} (h : Unreserved userId) (limit : Option Int32)
    (state : Option NFriendState) (cursor : String) :
    (RestClient.listUserGroups session userId limit state cursor).Matches
      (GrpcClient.listUserGroups session userId limit state cursor) := by
  have hp : pathSegments ("/v2/user/" ++ userId ++ "/group") = ["", "v2", "user", userId, "group"] :=
    segments_id_tail ["", "v2", "user"] (by decide) h (by decide)
  have hd := percentDecode_unreserved h
  simp [-Option.map_map, RestClient.listUserGroups, RestClient.listByState,
    GrpcClient.listUserGroups, GrpcClient.setByState, GrpcClient.withId, ApiGrpc.listUserGroups,
    ApiGrpc.listUserGroupsRequest, hp, hd]

/-! ## Leaderboards and tournaments -/

section
variable {leaderboardId : String} (h : Unreserved leaderboardId)
include h

theorem listLeaderboardRecords_same (ownerIds : List String) (limit : Option Int32)
    (cursor : Option String) :
    (RestClient.listLeaderboardRecords session leaderboardId ownerIds limit cursor).Matches
      (GrpcClient.listLeaderboardRecords session leaderboardId ownerIds limit cursor) := by
  have hp := segments_leaderboard h
  have hd := percentDecode_unreserved h
  simp [RestClient.listLeaderboardRecords, GrpcClient.listLeaderboardRecords, GrpcClient.withId,
    ApiGrpc.listLeaderboardRecords, ApiGrpc.listLeaderboardRecordsRequest, hp, hd]

theorem listLeaderboardRecordsAroundOwner_same {ownerId : String} (howner : Unreserved ownerId)
    (limit : Option Int32) :
    (RestClient.listLeaderboardRecordsAroundOwner session leaderboardId ownerId limit).Matches
        (GrpcClient.listLeaderboardRecordsAroundOwner session leaderboardId ownerId limit) ↔
      NonNegative limit := by
  have hp : pathSegments ("/v2/leaderboard/" ++ leaderboardId ++ "/owner/" ++ ownerId) =
      ["", "v2", "leaderboard", leaderboardId, "owner", ownerId] :=
    segments_owner ["", "v2", "leaderboard"] (by decide) h howner
  have hd := percentDecode_unreserved h
  have hdo := percentDecode_unreserved howner
  by_cases hn : NonNegative limit <;>
    simp [RestClient.listLeaderboardRecordsAroundOwner,
      GrpcClient.listLeaderboardRecordsAroundOwner, GrpcClient.withId,
      ApiGrpc.listLeaderboardRecordsAroundOwner, ApiGrpc.listLeaderboardRecordsAroundOwnerRequest,
      hp, hd, hdo, texts_limit, hn]

theorem writeLeaderboardRecord_same (score : Int64) (subscore : Option Int64)
    (metadata : Option String) :
    (RestClient.writeLeaderboardRecord session leaderboardId score subscore metadata).Matches
      (GrpcClient.writeLeaderboardRecord session leaderboardId score subscore metadata) := by
  have hp := segments_leaderboard h
  have hd := percentDecode_unreserved h
  simp [RestClient.writeLeaderboardRecord, RestClient.writeRecord,
    GrpcClient.writeLeaderboardRecord, GrpcClient.withId, GrpcClient.record,
    ApiGrpc.writeLeaderboardRecord, ApiGrpc.writeLeaderboardRecordRequest,
    ApiGrpc.leaderboardRecordWrite, hp, hd]

theorem deleteLeaderboardRecord_same :
    (RestClient.deleteLeaderboardRecord session leaderboardId).Matches
      (GrpcClient.deleteLeaderboardRecord session leaderboardId) := by
  have hp := segments_leaderboard h
  have hd := percentDecode_unreserved h
  simp [RestClient.deleteLeaderboardRecord, GrpcClient.deleteLeaderboardRecord, GrpcClient.withId,
    ApiGrpc.deleteLeaderboardRecord, ApiGrpc.deleteLeaderboardRecordRequest, hp, hd]

end

theorem listTournaments_same (categoryStart categoryEnd startTime endTime : Option UInt32)
    (limit : Option Int32) (cursor : Option String) :
    (RestClient.listTournaments session categoryStart categoryEnd startTime endTime limit
        cursor).Matches
      (GrpcClient.listTournaments session categoryStart categoryEnd startTime endTime limit
        cursor) := by
  have hp : pathSegments "/v2/tournament" = ["", "v2", "tournament"] := by decide
  simp [RestClient.listTournaments, GrpcClient.listTournaments, ApiGrpc.listTournaments,
    ApiGrpc.listTournamentsRequest, hp]

section
variable {tournamentId : String} (h : Unreserved tournamentId)
include h

theorem writeTournamentRecord_same (score : Int64) (subscore : Option Int64)
    (metadata : Option String) :
    (RestClient.writeTournamentRecord session tournamentId score subscore metadata).Matches
      (GrpcClient.writeTournamentRecord session tournamentId score subscore metadata) := by
  have hp := segments_tournament h
  have hd := percentDecode_unreserved h
  simp [RestClient.writeTournamentRecord, RestClient.writeRecord,
    GrpcClient.writeTournamentRecord, GrpcClient.withId, GrpcClient.record,
    ApiGrpc.writeTournamentRecord, ApiGrpc.writeTournamentRecordRequest,
    ApiGrpc.tournamentRecordWrite, hp, hd]

theorem listTournamentRecords_same (limit : Option Int32) (cursor : Option String)
    (ownerIds : List String) :
    (RestClient.listTournamentRecords session tournamentId limit cursor ownerIds).Matches
      (GrpcClient.listTournamentRecords session tournamentId limit cursor ownerIds) := by
  have hp := segments_tournament h
  have hd := percentDecode_unreserved h
  simp [RestClient.listTournamentRecords, GrpcClient.listTournamentRecords, GrpcClient.withId,
    ApiGrpc.listTournamentRecords, ApiGrpc.listTournamentRecordsRequest, hp, hd]

theorem listTournamentRecordsAroundOwner_same {ownerId : String} (howner : Unreserved ownerId)
    (limit : Option Int32) :
    (RestClient.listTournamentRecordsAroundOwner session tournamentId ownerId limit).Matches
        (GrpcClient.listTournamentRecordsAroundOwner session tournamentId ownerId limit) ↔
      NonNegative limit := by
  have hp : pathSegments ("/v2/tournament/" ++ tournamentId ++ "/owner/" ++ ownerId) =
      ["", "v2", "tournament", tournamentId, "owner", ownerId] :=
    segments_owner ["", "v2", "tournament"] (by decide) h howner
  have hd := percentDecode_unreserved h
  have hdo := percentDecode_unreserved howner
  by_cases hn : NonNegative limit <;>
    simp [RestClient.listTournamentRecordsAroundOwner,
      GrpcClient.listTournamentRecordsAroundOwner, GrpcClient.withId,
      ApiGrpc.listTournamentRecordsAroundOwner, ApiGrpc.listTournamentRecordsAroundOwnerRequest,
      hp, hd, hdo, texts_limit, hn]

theorem joinTournament_same :
    (RestClient.joinTournament session tournamentId).Matches
      (GrpcClient.joinTournament session tournamentId) := by
  have hp : pathSegments ("/v2/tournament/" ++ tournamentId ++ "/join") =
      ["", "v2", "tournament", tournamentId, "join"] :=
    segments_id_tail ["", "v2", "tournament"] (by decide) h (by decide)
  have hd := percentDecode_unreserved h
  simp [RestClient.joinTournament, GrpcClient.joinTournament, GrpcClient.withId,
    ApiGrpc.joinTournament, ApiGrpc.joinTournamentRequest, hp, hd]

end

/-! ## Matches, notifications, messages -/

theorem listMatches_same (minSize maxSize limit : Option Int32) (label : Option String)
    (authoritative : Option Bool) :
    (RestClient.listMatches session minSize maxSize limit label authoritative).Matches
      (GrpcClient.listMatches session minSize maxSize limit label authoritative) := by
  have hp : pathSegments "/v2/match" = ["", "v2", "match"] := by decide
  simp [RestClient.listMatches, GrpcClient.listMatches, ApiGrpc.listMatches,
    ApiGrpc.listMatchesRequest, hp]

/-- The argument `cursor` names no field: the field is `cacheable_cursor`. -/
theorem listNotifications_same (limit : Option Int32) (cacheableCursor : Option String) :
    (RestClient.listNotifications session limit cacheableCursor).Matches
        (GrpcClient.listNotifications session limit cacheableCursor) ↔
      cacheableCursor.getD "" = "" := by
  have hp : pathSegments "/v2/notification" = ["", "v2", "notification"] := by decide
  simp [RestClient.listNotifications, GrpcClient.listNotifications, ApiGrpc.listNotifications,
    ApiGrpc.listNotificationsRequest, hp]

theorem deleteNotifications_same (notificationIds : List String) :
    (RestClient.deleteNotifications session notificationIds).Matches
      (GrpcClient.deleteNotifications session notificationIds) := by
  have hp : pathSegments "/v2/notification" = ["", "v2", "notification"] := by decide
  simp [RestClient.deleteNotifications, GrpcClient.deleteNotifications,
    ApiGrpc.deleteNotifications, ApiGrpc.deleteNotificationsRequest, hp]

theorem listChannelMessages_same {channelId : String} (h : Unreserved channelId)
    (limit : Option Int32) (cursor : Option String) (forward : Option Bool) :
    (RestClient.listChannelMessages session channelId limit cursor forward).Matches
      (GrpcClient.listChannelMessages session channelId limit cursor forward) := by
  have hp : pathSegments ("/v2/channel/" ++ channelId) = ["", "v2", "channel", channelId] :=
    segments_id ["", "v2", "channel"] (by decide) h
  have hd := percentDecode_unreserved h
  simp [RestClient.listChannelMessages, GrpcClient.listChannelMessages, GrpcClient.withId,
    ApiGrpc.listChannelMessages, ApiGrpc.listChannelMessagesRequest, hp, hd]

/-! ## Storage -/

theorem listStorageObjects_same {collection : String} (h : Unreserved collection)
    (limit : Option Int32) (cursor : Option String) :
    (RestClient.listStorageObjects session collection limit cursor).Matches
      (GrpcClient.listStorageObjects session collection limit cursor) := by
  have hp := segments_storage h
  have hd := percentDecode_unreserved h
  simp [RestClient.listStorageObjects, GrpcClient.listStorageObjects, GrpcClient.withId,
    ApiGrpc.listStorageObjects, ApiGrpc.listStorageObjectsRequest, hp, hd]

theorem listUsersStorageObjects_same {collection : String} (h : Unreserved collection)
    (userId : String) (limit : Option Int32) (cursor : Option String) :
    (RestClient.listUsersStorageObjects session collection userId limit cursor).Matches
      (GrpcClient.listUsersStorageObjects session collection userId limit cursor) := by
  have hp := segments_storage h
  have hd := percentDecode_unreserved h
  simp [RestClient.listUsersStorageObjects, GrpcClient.listUsersStorageObjects, GrpcClient.withId,
    ApiGrpc.listStorageObjects, ApiGrpc.listStorageObjectsRequest, hp, hd]

theorem writeObject_decodes (obj : NStorageObjectWrite) :
    Decodes ApiGrpc.writeStorageObject (RestClient.writeObject obj) (GrpcClient.writeObject obj) := by
  constructor <;>
    simp [-Option.map_map, ApiGrpc.writeStorageObject, RestClient.writeObject,
      GrpcClient.writeObject]

theorem readObjectId_decodes (obj : NReadStorageObjectId) :
    Decodes ApiGrpc.readStorageObjectId (RestClient.readObjectId obj)
      (GrpcClient.readObjectId obj) := by
  constructor <;>
    simp [ApiGrpc.readStorageObjectId, RestClient.readObjectId, GrpcClient.readObjectId]

theorem deleteObjectId_decodes (obj : NDeleteStorageObjectId) :
    Decodes ApiGrpc.deleteStorageObjectId (RestClient.deleteObjectId obj)
      (GrpcClient.deleteObjectId obj) := by
  constructor <;>
    simp [ApiGrpc.deleteStorageObjectId, RestClient.deleteObjectId, GrpcClient.deleteObjectId]

theorem writeStorageObjects_same (objects : List NStorageObjectWrite) :
    (RestClient.writeStorageObjects session objects).Matches
      (GrpcClient.writeStorageObjects session objects) := by
  have hp : pathSegments "/v2/storage" = ["", "v2", "storage"] := by decide
  have hj := ofJson_repeatedMessage writeObject_decodes objects
  simp [-FieldType.ofJson, RestClient.writeStorageObjects, GrpcClient.writeStorageObjects,
    ApiGrpc.writeStorageObjects, ApiGrpc.writeStorageObjectsRequest, hp, hj]

theorem readStorageObjects_same (objectIds : List NReadStorageObjectId) :
    (RestClient.readStorageObjects session objectIds).Matches
      (GrpcClient.readStorageObjects session objectIds) := by
  have hp : pathSegments "/v2/storage" = ["", "v2", "storage"] := by decide
  have hj := ofJson_repeatedMessage readObjectId_decodes objectIds
  simp [-FieldType.ofJson, RestClient.readStorageObjects, GrpcClient.readStorageObjects,
    ApiGrpc.readStorageObjects, ApiGrpc.readStorageObjectsRequest, hp, hj]

theorem deleteStorageObjects_same (objectIds : List NDeleteStorageObjectId) :
    (RestClient.deleteStorageObjects session objectIds).Matches
      (GrpcClient.deleteStorageObjects session objectIds) := by
  have hp : pathSegments "/v2/storage/delete" = ["", "v2", "storage", "delete"] := by decide
  have hj := ofJson_repeatedMessage deleteObjectId_decodes objectIds
  simp [-FieldType.ofJson, RestClient.deleteStorageObjects, GrpcClient.deleteStorageObjects,
    ApiGrpc.deleteStorageObjects, ApiGrpc.deleteStorageObjectsRequest, hp, hj]

/-! ## RPC -/

theorem members_payload {b : HttpBinding} {name : String} (h : b.body = .field name) (s : String) :
    b.members (text (.str s)) = some [(name, .str s)] := by
  unfold HttpBinding.members
  rw [h, parse_text]
  rfl

/-- An empty payload is no payload: it is not sent, and is the default. -/
theorem getD_payload (payload : Option String) :
    payload.getD "" = (payload.bind nonEmpty).getD "" := by
  cases payload with
  | none => rfl
  | some s => exact (nonEmpty_getD s).symm

theorem rpc_same {id : String} (h : Unreserved id) (payload : Option String) :
    (RestClient.rpc session id payload).Matches (GrpcClient.rpc session id payload) := by
  have hp : pathSegments ("/v2/rpc/" ++ id) = ["", "v2", "rpc", id] :=
    segments_id ["", "v2", "rpc"] (by decide) h
  have hd := percentDecode_unreserved h
  have hpay := getD_payload payload
  cases hs : payload.bind nonEmpty <;> rw [hs] at hpay <;>
    simp [RestClient.rpc, RestClient.sendRpc, hs, GrpcClient.rpc, GrpcClient.withId,
      ApiGrpc.rpcFunc, ApiGrpc.rpc, hp, hd, members_payload, hpay]

theorem rpcWithKey_same (httpKey : String) {id : String} (h : Unreserved id)
    (payload : Option String) :
    (RestClient.rpcWithKey httpKey id payload).Matches
      (GrpcClient.rpcWithKey httpKey id payload) := by
  have hp : pathSegments ("/v2/rpc/" ++ id) = ["", "v2", "rpc", id] :=
    segments_id ["", "v2", "rpc"] (by decide) h
  have hd := percentDecode_unreserved h
  have hpay := getD_payload payload
  cases hs : payload.bind nonEmpty <;> rw [hs] at hpay <;>
    simp [RestClient.rpcWithKey, RestClient.sendRpc, hs, GrpcClient.rpcWithKey, GrpcClient.withId,
      ApiGrpc.rpcFunc, ApiGrpc.rpc, hp, hd, members_payload, hpay]

end

/-! ## The two clients -/

/-- The clients send the same request for exactly the arguments of `Agree`. -/
theorem sameRequest_iff (basicAuth : String) {op : ClientOp} (h : op.IdsUnreserved) :
    SameRequest basicAuth op ↔ op.Agree := by
  cases op with
  | authenticateDevice => exact authenticateDevice_same ..
  | authenticateEmail => exact authenticateEmail_same ..
  | authenticateFacebook => exact iff_of_false (authenticateFacebook_ne _ _ _ _ _ _) id
  | authenticateGoogle => exact authenticateGoogle_same ..
  | authenticateGameCenter => exact authenticateGameCenter_same ..
  | authenticateCustom => exact authenticateCustom_same ..
  | authenticateSteam => exact authenticateSteam_same ..
  | linkFacebook => exact linkFacebook_same ..
  | linkEmail => exact iff_of_true (linkEmail_same ..) trivial
  | linkDevice => exact iff_of_true (linkDevice_same ..) trivial
  | linkGoogle => exact iff_of_true (linkGoogle_same ..) trivial
  | linkGameCenter => exact linkGameCenter_same ..
  | linkSteam => exact iff_of_true (linkSteam_same ..) trivial
  | linkCustom => exact iff_of_true (linkCustom_same ..) trivial
  | unlinkFacebook => exact iff_of_true (unlinkFacebook_same ..) trivial
  | unlinkEmail => exact iff_of_true (unlinkEmail_same ..) trivial
  | unlinkGoogle => exact iff_of_true (unlinkGoogle_same ..) trivial
  | unlinkGameCenter => exact unlinkGameCenter_same ..
  | unlinkSteam => exact iff_of_true (unlinkSteam_same ..) trivial
  | unlinkDevice => exact iff_of_true (unlinkDevice_same ..) trivial
  | unlinkCustom => exact iff_of_true (unlinkCustom_same ..) trivial
  | importFacebookFriends => exact iff_of_true (importFacebookFriends_same ..) trivial
  | getAccount => exact iff_of_true (getAccount_same ..) trivial
  | updateAccount => exact iff_of_true (updateAccount_same ..) trivial
  | getUsers => exact iff_of_true (getUsers_same ..) trivial
  | addFriends => exact iff_of_true (addFriends_same ..) trivial
  | deleteFriends => exact iff_of_true (deleteFriends_same ..) trivial
  | blockFriends => exact iff_of_true (blockFriends_same ..) trivial
  | listFriends => exact iff_of_true (listFriends_same ..) trivial
  | createGroup => exact iff_of_true (createGroup_same ..) trivial
  | deleteGroup _ groupId => exact iff_of_true (deleteGroup_same _ (h groupId (.head _))) trivial
  | addGroupUsers _ groupId =>
    exact iff_of_true (addGroupUsers_same _ (h groupId (.head _)) ..) trivial
  | listGroupUsers _ groupId =>
    exact iff_of_true (listGroupUsers_same _ (h groupId (.head _)) ..) trivial
  | kickGroupUsers _ groupId =>
    exact iff_of_true (kickGroupUsers_same _ (h groupId (.head _)) ..) trivial
  | joinGroup _ groupId => exact iff_of_true (joinGroup_same _ (h groupId (.head _))) trivial
  | leaveGroup _ groupId => exact iff_of_true (leaveGroup_same _ (h groupId (.head _))) trivial
  | listGroups => exact iff_of_true (listGroups_same ..) trivial
  | listOwnGroups session =>
    cases session with
    | none => exact Iff.rfl
    | some session =>
      exact iff_of_true (listUserGroups_same _ (h session.userId (.head _)) ..) trivial
  | listUserGroups _ userId =>
    exact iff_of_true (listUserGroups_same _ (h userId (.head _)) ..) trivial
  | promoteGroupUsers _ groupId =>
    exact iff_of_true (promoteGroupUsers_same _ (h groupId (.head _)) ..) trivial
  | updateGroup _ groupId =>
    exact iff_of_true (updateGroup_same _ (h groupId (.head _)) ..) trivial
  | listLeaderboardRecords _ leaderboardId =>
    exact iff_of_true (listLeaderboardRecords_same _ (h leaderboardId (.head _)) ..) trivial
  | listLeaderboardRecordsAroundOwner _ leaderboardId ownerId =>
    exact listLeaderboardRecordsAroundOwner_same _ (h leaderboardId (.head _))
      (h ownerId (.tail _ (.head _))) ..
  | writeLeaderboardRecord _ leaderboardId =>
    exact iff_of_true (writeLeaderboardRecord_same _ (h leaderboardId (.head _)) ..) trivial
  | writeTournamentRecord _ tournamentId =>
    exact iff_of_true (writeTournamentRecord_same _ (h tournamentId (.head _)) ..) trivial
  | deleteLeaderboardRecord _ leaderboardId =>
    exact iff_of_true (deleteLeaderboardRecord_same _ (h leaderboardId (.head _))) trivial
  | listMatches => exact iff_of_true (listMatches_same ..) trivial
  | listNotifications => exact listNotifications_same ..
  | deleteNotifications => exact iff_of_true (deleteNotifications_same ..) trivial
  | listChannelMessages _ channelId =>
    exact iff_of_true (listChannelMessages_same _ (h channelId (.head _)) ..) trivial
  | listTournaments => exact iff_of_true (listTournaments_same ..) trivial
  | listTournamentRecords _ tournamentId =>
    exact iff_of_true (listTournamentRecords_same _ (h tournamentId (.head _)) ..) trivial
  | listTournamentRecordsAroundOwner _ tournamentId ownerId =>
    exact listTournamentRecordsAroundOwner_same _ (h tournamentId (.head _))
      (h ownerId (.tail _ (.head _))) ..
  | joinTournament _ tournamentId =>
    exact iff_of_true (joinTournament_same _ (h tournamentId (.head _))) trivial
  | listStorageObjects _ collection =>
    exact iff_of_true (listStorageObjects_same _ (h collection (.head _)) ..) trivial
  | listUsersStorageObjects _ collection =>
    exact iff_of_true (listUsersStorageObjects_same _ (h collection (.head _)) ..) trivial
  | writeStorageObjects => exact iff_of_true (writeStorageObjects_same ..) trivial
  | readStorageObjects => exact iff_of_true (readStorageObjects_same ..) trivial
  | deleteStorageObjects => exact iff_of_true (deleteStorageObjects_same ..) trivial
  | rpc _ id => exact iff_of_true (rpc_same _ (h id (.head _)) ..) trivial
  | rpcWithKey _ id => exact iff_of_true (rpcWithKey_same _ (h id (.head _)) ..) trivial

theorem sameRequest_iff_joinGroup :
    (ClientOp.joinGroup ⟨"t", "u"⟩ "g1").IdsUnreserved ∧
      (SameRequest "" (.joinGroup ⟨"t", "u"⟩ "g1") ↔
        (ClientOp.joinGroup ⟨"t", "u"⟩ "g1").Agree) :=
  ⟨by decide, sameRequest_iff "" (by decide)⟩

/-- A cursor of the notifications is lost on the way. -/
theorem not_sameRequest_cursor :
    ¬ ∀ (basicAuth : String) (op : ClientOp), op.IdsUnreserved → SameRequest basicAuth op := by
  intro h
  have hs := h "" (.listNotifications ⟨"t", "u"⟩ none (some "c")) (by decide)
  have hc := (listNotifications_same ⟨"t", "u"⟩ none (some "c")).1 hs
  exact absurd hc (by decide)

end NakamaCpp.Rest
