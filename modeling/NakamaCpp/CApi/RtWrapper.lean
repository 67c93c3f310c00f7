import NakamaCpp.CApi.ClientWrapper
import NakamaCpp.CApi.RtData

/-!
# `NRtClientWrapper` over the C interface

The operations of `NRtClientInterface` that transmit an `Envelope`, the message that
src/realtime/NRtClient.cpp makes for each, and the way of an operation from `NRtClientWrapper`
(include/nakama-cpp-c-wrapper/Impl/NRtClientWrapperImpl.h) through a function of
src/nakama-c/realtime/NRtClientC.cpp to the wrapped client.  The cid, which differs from call to
call, is not part of a message.

    op.Portable  →  (transmitted op = some op.message ↔ op.CrossesIntact)     (transmitted_iff)
-/

namespace NakamaCpp.CApi

open Realtime CInterop

/-! ## Operations and messages -/

/-- A call of an operation, without the callbacks. -/
inductive RtOp
  | joinChat (target : String) (type : Int32) (persistence hidden : Option Bool)
  | leaveChat (channelId : String)
  | writeChatMessage (channelId content : String)
  | updateChatMessage (channelId messageId content : String)
  | removeChatMessage (channelId messageId : String)
  | createMatch
  | joinMatch (matchId : String) (metadata : NStringMap)
  | joinMatchByToken (token : String)
  | leaveMatch (matchId : String)
  | addMatchmaker (minCount maxCount : Option Int32) (query : Option String)
      (stringProperties : NStringMap) (numericProperties : NStringDoubleMap)
  | removeMatchmaker (ticket : String)
  | sendMatchData (matchId : String) (opCode : Int64) (data : NBytes)
      (presences : List NUserPresence)
  | followUsers (userIds : List String)
  | unfollowUsers (userIds : List String)
  | updateStatus (status : String)
  | rpc (id : String) (payload : Option String)

/-- `::nakama::realtime::UserPresence`. -/
structure UserPresence where
  (userId sessionId username : String)
  persistence : Bool
  status : Option String

/-- The `id` of a `MatchJoin`, a oneof. -/
inductive MatchJoinId
  | matchId (matchId : String)
  | token (token : String)

/-- What an operation puts into an `Envelope`.  A `BoolValue` or `StringValue` may be absent; a
plain field that is not set has the default of its type. -/
inductive RtMessage
  | channelJoin (target : String) (type : Int32) (persistence hidden : Option Bool)
  | channelLeave (channelId : String)
  | channelMessageSend (channelId content : String)
  | channelMessageUpdate (channelId messageId content : String)
  | channelMessageRemove (channelId messageId : String)
  | matchCreate
  | matchJoin (id : MatchJoinId) (metadata : NStringMap)
  | matchLeave (matchId : String)
  | matchmakerAdd (minCount maxCount : Int32) (query : String) (stringProperties : NStringMap)
      (numericProperties : NStringDoubleMap)
  | matchmakerRemove (ticket : String)
  | matchDataSend (matchId : String) (opCode : Int64) (data : NBytes) (presences : List UserPresence)
  | statusFollow (userIds : List String)
  | statusUnfollow (userIds : List String)
  | statusUpdate (status : Option String)
  | rpc (id payload : String)

/-- The loop of `sendMatchData`: a presence without user or session is left out. -/
def presenceMessage (presence : NUserPresence) : Option UserPresence :=
  if presence.userId.isEmpty then none
  else if presence.sessionId.isEmpty then none
  else some {
    userId := presence.userId
    sessionId := presence.sessionId
    username := presence.username
    persistence := presence.persistence
    status := if presence.status.isEmpty then none else some presence.status }

/-- The message that `NRtClient` sends. -/
def RtOp.message : RtOp → RtMessage
  | .joinChat target type persistence hidden => .channelJoin target type persistence hidden
  | .leaveChat channelId => .channelLeave channelId
  | .writeChatMessage channelId content => .channelMessageSend channelId content
  | .updateChatMessage channelId messageId content =>
    .channelMessageUpdate channelId messageId content
  | .removeChatMessage channelId messageId => .channelMessageRemove channelId messageId
  | .createMatch => .matchCreate
  | .joinMatch matchId metadata => .matchJoin (.matchId matchId) metadata
  | .joinMatchByToken token => .matchJoin (.token token) ∅
  | .leaveMatch matchId => .matchLeave matchId
  | .addMatchmaker minCount maxCount query stringProperties numericProperties =>
    .matchmakerAdd (minCount.getD 0) (maxCount.getD 0) (query.getD "") stringProperties
      numericProperties
  | .removeMatchmaker ticket => .matchmakerRemove ticket
  | .sendMatchData matchId opCode data presences =>
    .matchDataSend matchId opCode data (presences.filterMap presenceMessage)
  | .followUsers userIds => .statusFollow userIds
  | .unfollowUsers userIds => .statusUnfollow userIds
  | .updateStatus status => .statusUpdate (some status)
  | .rpc id payload => .rpc id (payload.getD "")

/-! ## The wrapper and the C functions -/

/-- A call of a function of NRtClientC.cpp that the wrapper makes, without the callbacks. -/
inductive NRtClientCall
  | joinChat (target : CStr) (type : Int32) (persistence hidden : Bool)
  | leaveChat (channelId : CStr)
  | writeChatMessage (channelId content : CStr)
  | updateChatMessage (channelId messageId content : CStr)
  | removeChatMessage (channelId messageId : CStr)
  | createMatch
  | joinMatch (matchId : CStr) (metadata : CStringMap)
  | joinMatchByToken (token : CStr)
  | leaveMatch (matchId : CStr)
  | addMatchmaker (minCount maxCount : Int32) (query : Option CStr) (stringProperties : CStringMap)
      (numericProperties : CStringDoubleMap)
  | removeMatchmaker (ticket : CStr)
  | sendMatchData (matchId : CStr) (opCode : Int64) (data : CBytes)
      (presences : CArray SNUserPresence)
  | followUsers (userIds : CArray CStr)
  | unfollowUsers (userIds : CArray CStr)
  | updateStatus (status : CStr)
  | rpc (id : CStr) (payload : Option CStr)

/-- `toCNStringDoubleMap`. -/
def toCNStringDoubleMap (map : NStringDoubleMap) : CStringDoubleMap :=
  if map.isEmpty then none else some (writeMap id map)

/-- The C function that the wrapper calls. -/
def NRtClientWrapper.call : RtOp → NRtClientCall
  | .joinChat target type persistence hidden =>
    .joinChat (cStr target) type (persistence.getD false) (hidden.getD false)
  | .leaveChat channelId => .leaveChat (cStr channelId)
  | .writeChatMessage channelId content => .writeChatMessage (cStr channelId) (cStr content)
  | .updateChatMessage channelId messageId content =>
    .updateChatMessage (cStr channelId) (cStr messageId) (cStr content)
  | .removeChatMessage channelId messageId => .removeChatMessage (cStr channelId) (cStr messageId)
  | .createMatch => .createMatch
  | .joinMatch matchId metadata => .joinMatch (cStr matchId) (toCNStringMap metadata)
  | .joinMatchByToken token => .joinMatchByToken (cStr token)
  | .leaveMatch matchId => .leaveMatch (cStr matchId)
  | .addMatchmaker minCount maxCount query stringProperties numericProperties =>
    .addMatchmaker (minCount.getD 0) (maxCount.getD 0) (optCStr query)
      (toCNStringMap stringProperties) (toCNStringDoubleMap numericProperties)
  | .removeMatchmaker ticket => .removeMatchmaker (cStr ticket)
  | .sendMatchData matchId opCode data presences =>
    .sendMatchData (cStr matchId) opCode (.ofBytes data)
      (.ofList (presences.map SNUserPresence.assign))
  | .followUsers userIds => .followUsers (cStrs userIds)
  | .unfollowUsers userIds => .unfollowUsers (cStrs userIds)
  -- the wrapper's `updateStatus` calls `NRtClient_leaveChat`
  | .updateStatus status => .leaveChat (cStr status)
  | .rpc id payload => .rpc (cStr id) (optCStr payload)

/-- The operation that a C function calls on the wrapped client; `none` when a map is read
where nothing is. -/
def NRtClientCall.run : NRtClientCall → Option RtOp
  | .joinChat target type persistence hidden =>
    some (.joinChat target.text type (some persistence) (some hidden))
  | .leaveChat channelId => some (.leaveChat channelId.text)
  | .writeChatMessage channelId content => some (.writeChatMessage channelId.text content.text)
  | .updateChatMessage channelId messageId content =>
    some (.updateChatMessage channelId.text messageId.text content.text)
  | .removeChatMessage channelId messageId =>
    some (.removeChatMessage channelId.text messageId.text)
  | .createMatch => some .createMatch
  | .joinMatch matchId metadata => do
    return .joinMatch matchId.text (← toCppNStringMap metadata)
  | .joinMatchByToken token => some (.joinMatchByToken token.text)
  | .leaveMatch matchId => some (.leaveMatch matchId.text)
  | .addMatchmaker minCount maxCount query stringProperties numericProperties => do
    return .addMatchmaker (unlessZero minCount) (unlessZero maxCount) (optText query)
      (← toCppNStringMap stringProperties) (← toCppNStringDoubleMap numericProperties)
  | .removeMatchmaker ticket => some (.removeMatchmaker ticket.text)
  | .sendMatchData matchId opCode data presences =>
    some (.sendMatchData matchId.text opCode data.toBytes (presences.toList.map NUserPresence.assign))
  | .followUsers userIds => some (.followUsers (texts userIds))
  | .unfollowUsers userIds => some (.unfollowUsers (texts userIds))
  | .updateStatus status => some (.updateStatus status.text)
  | .rpc id payload => some (.rpc id.text (optText payload))

/-- What the wrapped client transmits when the operation is called on the wrapper. -/
def transmitted (op : RtOp) : Option RtMessage := (NRtClientWrapper.call op).run.map RtOp.message

namespace RtOp

/-- No text has a NUL, and no list or map has more than 65535 elements. -/
def Portable : RtOp → Prop
  | .joinChat text .. | .leaveChat text | .joinMatchByToken text | .leaveMatch text
  | .removeMatchmaker text | .updateStatus text => NulFree text
  | .writeChatMessage channelId content => AllNulFree [channelId, content]
  | .updateChatMessage channelId messageId content => AllNulFree [channelId, messageId, content]
  | .removeChatMessage channelId messageId => AllNulFree [channelId, messageId]
  | .createMatch => True
  | .joinMatch matchId metadata => NulFree matchId ∧ PortableStringMap metadata
  | .addMatchmaker _ _ query stringProperties numericProperties =>
    AllNulFree query.toList ∧ PortableStringMap stringProperties ∧
    PortableDoubleMap numericProperties
  | .sendMatchData matchId _ _ presences =>
    NulFree matchId ∧ EachCounted NUserPresence.Portable presences
  | .followUsers userIds | .unfollowUsers userIds => AllNulFree userIds ∧ Counted userIds
  | .rpc id payload => NulFree id ∧ AllNulFree payload.toList

/-- The wrapper does not change the message. -/
def CrossesIntact : RtOp → Prop
  | .joinChat _ _ persistence hidden => persistence.isSome ∧ hidden.isSome
  | .sendMatchData _ _ data _ => data.size < 2 ^ 32
  | .updateStatus _ => False
  | _ => True

/-- The operation that arrives at the wrapped client. -/
def crossed : RtOp → RtOp
  | .joinChat target type persistence hidden =>
    .joinChat target type (some (persistence.getD false)) (some (hidden.getD false))
  | .addMatchmaker minCount maxCount query stringProperties numericProperties =>
    .addMatchmaker (if minCount = some 0 then none else minCount)
      (if maxCount = some 0 then none else maxCount) query stringProperties numericProperties
  | .sendMatchData matchId opCode data presences =>
    .sendMatchData matchId opCode (CBytes.ofBytes data).toBytes presences
  | .updateStatus status => .leaveChat status
  | op => op

end RtOp

/-! ## Lemmas -/

theorem toCppNStringMap_toCNStringMap {map : NStringMap} (h : PortableStringMap map) :
    toCppNStringMap (toCNStringMap map) = some map := by
  rw [toCNStringMap_eq h.1, toCppNStringMap_saveMap h]

theorem toCppNStringDoubleMap_toCNStringDoubleMap {map : NStringDoubleMap}
    (h : PortableDoubleMap map) : toCppNStringDoubleMap (toCNStringDoubleMap map) = some map := by
  have hwrite : writeMap id map = map :=
    writeMap_eq (fun k hk => h.1 k (Std.ExtTreeMap.mem_keys.2 hk)) fun _ _ _ => rfl
  have hsave : toCNStringDoubleMap map = saveMap map := by
    rw [toCNStringDoubleMap, hwrite, saveMap]
  rw [hsave, toCppNStringDoubleMap_saveMap h]

theorem presences_back {presences : List NUserPresence}
    (h : EachCounted NUserPresence.Portable presences) :
    (CArray.ofList (presences.map SNUserPresence.assign)).toList.map NUserPresence.assign =
      presences :=
  CArray.map_toList_ofList h.1 fun presence hp => NUserPresence.assign_assign (h.2 presence hp)

/-- The wrapped client is called with the operation as `crossed` has it. -/
theorem run_call {op : RtOp} (h : op.Portable) :
    (NRtClientWrapper.call op).run = some op.crossed := by
  cases op with
  | createMatch => rfl
  | joinMatch matchId metadata =>
    obtain ⟨hid, hmetadata⟩ := h
    simp only [NRtClientWrapper.call, NRtClientCall.run, RtOp.crossed, CStr.text_ofString hid,
      toCppNStringMap_toCNStringMap hmetadata]
    rfl
  | addMatchmaker minCount maxCount query stringProperties numericProperties =>
    obtain ⟨hquery, hstring, hdouble⟩ := h
    simp only [NRtClientWrapper.call, NRtClientCall.run, RtOp.crossed, optText_optCStr hquery,
      unlessZero_getD, toCppNStringMap_toCNStringMap hstring,
      toCppNStringDoubleMap_toCNStringDoubleMap hdouble]
    rfl
  | sendMatchData matchId opCode data presences =>
    simp only [NRtClientWrapper.call, NRtClientCall.run, RtOp.crossed, CStr.text_ofString h.1,
      presences_back h.2]
  | followUsers userIds | unfollowUsers userIds =>
    simp only [NRtClientWrapper.call, NRtClientCall.run, RtOp.crossed, texts_cStrs h.1 h.2]
  | rpc id payload =>
    simp only [NRtClientWrapper.call, NRtClientCall.run, RtOp.crossed, CStr.text_ofString h.1,
      optText_optCStr h.2]
  | _ =>
    simp only [RtOp.Portable, allNulFree_cons] at h
    simp only [NRtClientWrapper.call, NRtClientCall.run, RtOp.crossed, CStr.text_ofString, h]

theorem getD_unless_zero (n : Option Int32) :
    (if n = some 0 then none else n).getD 0 = n.getD 0 := by
  split
  · next h =>
    rw [h]
    rfl
  · rfl

theorem message_crossed_iff {op : RtOp} : op.crossed.message = op.message ↔ op.CrossesIntact := by
  cases op with
  | joinChat target type persistence hidden =>
    simp only [RtOp.crossed, RtOp.message, RtMessage.channelJoin.injEq, true_and,
      some_getD_eq_iff, RtOp.CrossesIntact]
  | addMatchmaker minCount maxCount query stringProperties numericProperties =>
    apply iff_of_true _ trivial
    simp only [RtOp.crossed, RtOp.message, getD_unless_zero]
  | sendMatchData matchId opCode data presences =>
    simp only [RtOp.crossed, RtOp.message, RtMessage.matchDataSend.injEq, true_and, and_true,
      RtOp.CrossesIntact, CBytes.toBytes_ofBytes_iff]
  | updateStatus status =>
    apply iff_of_false _ not_false
    intro h
    cases h
  | _ => exact iff_of_true rfl trivial

/-- **Transparency.** -/
theorem transmitted_iff {op : RtOp} (h : op.Portable) :
    transmitted op = some op.message ↔ op.CrossesIntact := by
  rw [transmitted, run_call h, Option.map_some, Option.some.injEq]
  exact message_crossed_iff

theorem transmitted_iff_addMatchmaker :
    transmitted (.addMatchmaker (some 0) none (some "*") ∅ ∅) =
      some (.matchmakerAdd 0 0 "*" ∅ ∅) := by
  have h : RtOp.Portable (.addMatchmaker (some 0) none (some "*") ∅ ∅) :=
    ⟨by decide, ⟨by decide, by decide⟩, by decide, by decide⟩
  exact (transmitted_iff h).2 trivial

/-- A status leaves a channel of that name, and absent optionals of `joinChat` are sent as
false. -/
theorem not_transmitted :
    (transmitted (.updateStatus "busy") = some (.channelLeave "busy") ∧
      transmitted (.updateStatus "busy") ≠ some (RtOp.updateStatus "busy").message) ∧
    (transmitted (.joinChat "room" 0 none none) =
        some (.channelJoin "room" 0 (some false) (some false)) ∧
      transmitted (.joinChat "room" 0 none none) ≠
        some (RtOp.joinChat "room" 0 none none).message) := by
  have hstatus : transmitted (.updateStatus "busy") = some (.channelLeave "busy") := by
    rw [transmitted, run_call (by unfold RtOp.Portable; decide)]
    rfl
  have hjoin : transmitted (.joinChat "room" 0 none none) =
      some (.channelJoin "room" 0 (some false) (some false)) := by
    rw [transmitted, run_call (by unfold RtOp.Portable; decide)]
    rfl
  refine ⟨⟨hstatus, ?_⟩, ⟨hjoin, ?_⟩⟩
  · rw [hstatus]
    intro h
    cases h
  · rw [hjoin]
    intro h
    cases h

end NakamaCpp.CApi
