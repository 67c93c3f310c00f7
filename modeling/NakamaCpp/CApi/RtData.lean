import NakamaCpp.CApi.Data
import NakamaCpp.Realtime.Websocket

/-!
# The data of realtime callbacks at the C interface

The types of include/nakama-cpp/realtime/rtdata, as in `Data.lean`: of each the structure in C,
the `assign` that fills it and the one that reads it back, and that what is read is what was
written.  `assign` of match data goes through a 32-bit size (`NMatchData.assign_assign_iff`).
-/

namespace NakamaCpp.CApi

open Rest (NTimestamp)
open Realtime CInterop

/-! ## Errors and the end of a connection -/

structure SNRtError where
  code : Int32
  message : CStr
  context : CStringMap

def SNRtError.assign (error : NRtError) : SNRtError where
  code := error.code
  message := cStr error.message
  context := saveMap error.context

def assignNRtError (cError : SNRtError) : Option NRtError := do
  return {
    code := cError.code
    message := cError.message.text
    context := ← toCppNStringMap cError.context }

def PortableNRtError (error : NRtError) : Prop :=
  NulFree error.message ∧ PortableStringMap error.context

theorem assignNRtError_assign {error : NRtError} (h : PortableNRtError error) :
    assignNRtError (.assign error) = some error := by
  obtain ⟨ht, hcontext⟩ := h
  simp only [assignNRtError, SNRtError.assign, CStr.text_ofString ht,
    toCppNStringMap_saveMap hcontext]
  rfl

structure SNRtClientDisconnectInfo where
  code : UInt16
  reason : CStr
  remote : Bool

def SNRtClientDisconnectInfo.assign (info : NRtClientDisconnectInfo) :
    SNRtClientDisconnectInfo where
  code := info.code
  reason := cStr info.reason
  remote := info.remote

def assignNRtClientDisconnectInfo (cInfo : SNRtClientDisconnectInfo) : NRtClientDisconnectInfo where
  code := cInfo.code
  reason := cInfo.reason.text
  remote := cInfo.remote

theorem assignNRtClientDisconnectInfo_assign {info : NRtClientDisconnectInfo}
    (h : NulFree info.reason) : assignNRtClientDisconnectInfo (.assign info) = info := by
  simp only [assignNRtClientDisconnectInfo, SNRtClientDisconnectInfo.assign, CStr.text_ofString h]

/-! ## Channels -/

structure NChannel where
  id : String
  presences : List NUserPresence
  self : NUserPresence
  (roomName groupId userIdOne userIdTwo : String)

structure SNChannel where
  id : CStr
  presences : CArray SNUserPresence
  self : SNUserPresence
  (roomName groupId userIdOne userIdTwo : CStr)

def SNChannel.assign (channel : NChannel) : SNChannel where
  id := cStr channel.id
  presences := .alloc SNUserPresence.assign channel.presences
  self := .assign channel.self
  roomName := cStr channel.roomName
  groupId := cStr channel.groupId
  userIdOne := cStr channel.userIdOne
  userIdTwo := cStr channel.userIdTwo

def NChannel.assign (cChannel : SNChannel) : NChannel where
  id := cChannel.id.text
  presences := cChannel.presences.toList.map NUserPresence.assign
  self := .assign cChannel.self
  roomName := cChannel.roomName.text
  groupId := cChannel.groupId.text
  userIdOne := cChannel.userIdOne.text
  userIdTwo := cChannel.userIdTwo.text

def NChannel.Portable (channel : NChannel) : Prop :=
  AllNulFree [channel.id, channel.roomName, channel.groupId, channel.userIdOne, channel.userIdTwo] ∧
  EachCounted NUserPresence.Portable channel.presences ∧ channel.self.Portable

theorem NChannel.assign_assign {channel : NChannel} (h : channel.Portable) :
    NChannel.assign (.assign channel) = channel := by
  obtain ⟨ht, hpresences, hself⟩ := h
  simp only [allNulFree_cons] at ht
  simp only [NChannel.assign, SNChannel.assign, CStr.text_ofString, ht,
    hpresences.map_toList_alloc fun _ => NUserPresence.assign_assign,
    NUserPresence.assign_assign hself]

structure NChannelMessageAck where
  (channelId messageId username : String)
  code : Int32
  (createTime updateTime : NTimestamp)
  persistent : Bool
  (roomName groupId userIdOne userIdTwo : String)

structure SNChannelMessageAck where
  (channelId messageId username : CStr)
  code : Int32
  (createTime updateTime : NTimestamp)
  persistent : Bool
  (roomName groupId userIdOne userIdTwo : CStr)

def SNChannelMessageAck.assign (ack : NChannelMessageAck) : SNChannelMessageAck where
  channelId := cStr ack.channelId
  messageId := cStr ack.messageId
  username := cStr ack.username
  code := ack.code
  createTime := ack.createTime
  updateTime := ack.updateTime
  persistent := ack.persistent
  roomName := cStr ack.roomName
  groupId := cStr ack.groupId
  userIdOne := cStr ack.userIdOne
  userIdTwo := cStr ack.userIdTwo

def NChannelMessageAck.assign (cAck : SNChannelMessageAck) : NChannelMessageAck where
  channelId := cAck.channelId.text
  messageId := cAck.messageId.text
  username := cAck.username.text
  code := cAck.code
  createTime := cAck.createTime
  updateTime := cAck.updateTime
  persistent := cAck.persistent
  roomName := cAck.roomName.text
  groupId := cAck.groupId.text
  userIdOne := cAck.userIdOne.text
  userIdTwo := cAck.userIdTwo.text

def NChannelMessageAck.Portable (ack : NChannelMessageAck) : Prop :=
  AllNulFree [ack.channelId, ack.messageId, ack.username, ack.roomName, ack.groupId,
    ack.userIdOne, ack.userIdTwo]

theorem NChannelMessageAck.assign_assign {ack : NChannelMessageAck} (h : ack.Portable) :
    NChannelMessageAck.assign (.assign ack) = ack := by
  simp only [NChannelMessageAck.Portable, allNulFree_cons] at h
  simp only [NChannelMessageAck.assign, SNChannelMessageAck.assign, CStr.text_ofString, h]

structure NChannelPresenceEvent where
  channelId : String
  (joins leaves : List NUserPresence)
  (roomName groupId userIdOne userIdTwo : String)
deriving Inhabited

structure SNChannelPresenceEvent where
  channelId : CStr
  (joins leaves : CArray SNUserPresence)
  (roomName groupId userIdOne userIdTwo : CStr)

def SNChannelPresenceEvent.assign (presence : NChannelPresenceEvent) : SNChannelPresenceEvent where
  channelId := cStr presence.channelId
  joins := .alloc SNUserPresence.assign presence.joins
  leaves := .alloc SNUserPresence.assign presence.leaves
  roomName := cStr presence.roomName
  groupId := cStr presence.groupId
  userIdOne := cStr presence.userIdOne
  userIdTwo := cStr presence.userIdTwo

def NChannelPresenceEvent.assign (cPresence : SNChannelPresenceEvent) : NChannelPresenceEvent where
  channelId := cPresence.channelId.text
  joins := cPresence.joins.toList.map NUserPresence.assign
  leaves := cPresence.leaves.toList.map NUserPresence.assign
  roomName := cPresence.roomName.text
  groupId := cPresence.groupId.text
  userIdOne := cPresence.userIdOne.text
  userIdTwo := cPresence.userIdTwo.text

def NChannelPresenceEvent.Portable (presence : NChannelPresenceEvent) : Prop :=
  AllNulFree [presence.channelId, presence.roomName, presence.groupId, presence.userIdOne,
    presence.userIdTwo] ∧ EachCounted NUserPresence.Portable presence.joins ∧
  EachCounted NUserPresence.Portable presence.leaves

theorem NChannelPresenceEvent.assign_assign {presence : NChannelPresenceEvent}
    (h : presence.Portable) : NChannelPresenceEvent.assign (.assign presence) = presence := by
  obtain ⟨ht, hjoins, hleaves⟩ := h
  simp only [allNulFree_cons] at ht
  simp only [NChannelPresenceEvent.assign, SNChannelPresenceEvent.assign, CStr.text_ofString, ht,
    hjoins.map_toList_alloc fun _ => NUserPresence.assign_assign,
    hleaves.map_toList_alloc fun _ => NUserPresence.assign_assign]

/-! ## Matchmaking -/

structure NMatchmakerTicket where
  ticket : String

structure SNMatchmakerTicket where
  ticket : CStr

def SNMatchmakerTicket.assign (ticket : NMatchmakerTicket) : SNMatchmakerTicket where
  ticket := cStr ticket.ticket

def NMatchmakerTicket.assign (cTicket : SNMatchmakerTicket) : NMatchmakerTicket where
  ticket := cTicket.ticket.text

def NMatchmakerTicket.Portable (ticket : NMatchmakerTicket) : Prop := NulFree ticket.ticket

theorem NMatchmakerTicket.assign_assign {ticket : NMatchmakerTicket} (h : ticket.Portable) :
    NMatchmakerTicket.assign (.assign ticket) = ticket := by
  simp only [NMatchmakerTicket.assign, SNMatchmakerTicket.assign, CStr.text_ofString h]

structure NMatchmakerUser where
  presence : NUserPresence
  stringProperties : NStringMap
  numericProperties : NStringDoubleMap
deriving Inhabited

structure SNMatchmakerUser where
  presence : SNUserPresence
  stringProperties : CStringMap
  numericProperties : CStringDoubleMap

def SNMatchmakerUser.assign (user : NMatchmakerUser) : SNMatchmakerUser where
  presence := .assign user.presence
  stringProperties := saveMap user.stringProperties
  numericProperties := saveMap user.numericProperties

def NMatchmakerUser.assign (cUser : SNMatchmakerUser) : Option NMatchmakerUser := do
  return {
    presence := .assign cUser.presence
    stringProperties := ← toCppNStringMap cUser.stringProperties
    numericProperties := ← toCppNStringDoubleMap cUser.numericProperties }

def NMatchmakerUser.Portable (user : NMatchmakerUser) : Prop :=
  user.presence.Portable ∧ PortableStringMap user.stringProperties ∧
  PortableDoubleMap user.numericProperties

theorem NMatchmakerUser.assign_assign {user : NMatchmakerUser} (h : user.Portable) :
    NMatchmakerUser.assign (.assign user) = some user := by
  obtain ⟨hpresence, hstring, hdouble⟩ := h
  simp only [NMatchmakerUser.assign, SNMatchmakerUser.assign,
    NUserPresence.assign_assign hpresence, toCppNStringMap_saveMap hstring,
    toCppNStringDoubleMap_saveMap hdouble]
  rfl

structure NMatchmakerMatched where
  (ticket matchId token : String)
  users : List NMatchmakerUser
  self : NMatchmakerUser
deriving Inhabited

structure SNMatchmakerMatched where
  (ticket matchId token : CStr)
  users : CArray SNMatchmakerUser
  self : SNMatchmakerUser

def SNMatchmakerMatched.assign (matched : NMatchmakerMatched) : SNMatchmakerMatched where
  ticket := cStr matched.ticket
  matchId := cStr matched.matchId
  token := cStr matched.token
  users := .alloc SNMatchmakerUser.assign matched.users
  self := .assign matched.self

def NMatchmakerMatched.assign (cMatched : SNMatchmakerMatched) : Option NMatchmakerMatched := do
  return {
    ticket := cMatched.ticket.text
    matchId := cMatched.matchId.text
    token := cMatched.token.text
    users := ← cMatched.users.toList.mapM NMatchmakerUser.assign
    self := ← NMatchmakerUser.assign cMatched.self }

def NMatchmakerMatched.Portable (matched : NMatchmakerMatched) : Prop :=
  AllNulFree [matched.ticket, matched.matchId, matched.token] ∧
  EachCounted NMatchmakerUser.Portable matched.users ∧ matched.self.Portable

theorem NMatchmakerMatched.assign_assign {matched : NMatchmakerMatched} (h : matched.Portable) :
    NMatchmakerMatched.assign (.assign matched) = some matched := by
  obtain ⟨ht, husers, hself⟩ := h
  simp only [allNulFree_cons] at ht
  simp only [NMatchmakerMatched.assign, SNMatchmakerMatched.assign, CStr.text_ofString, ht,
    husers.mapM_toList_alloc fun _ => NMatchmakerUser.assign_assign,
    NMatchmakerUser.assign_assign hself]
  rfl

/-! ## Matches -/

structure NMatchData where
  matchId : String
  presence : NUserPresence
  opCode : Int64
  data : NBytes
deriving Inhabited

structure SNMatchData where
  matchId : CStr
  presence : SNUserPresence
  opCode : Int64
  data : CBytes

def SNMatchData.assign (data : NMatchData) : SNMatchData where
  matchId := cStr data.matchId
  presence := .assign data.presence
  opCode := data.opCode
  data := .ofBytes data.data

def NMatchData.assign (cData : SNMatchData) : NMatchData where
  matchId := cData.matchId.text
  presence := .assign cData.presence
  opCode := cData.opCode
  data := cData.data.toBytes

def NMatchData.Portable (data : NMatchData) : Prop :=
  NulFree data.matchId ∧ data.presence.Portable

theorem NMatchData.assign_assign {data : NMatchData} (h : data.Portable) :
    NMatchData.assign (.assign data) =
      { data with data := (CBytes.ofBytes data.data).toBytes } := by
  obtain ⟨ht, hpresence⟩ := h
  simp only [NMatchData.assign, SNMatchData.assign, CStr.text_ofString ht,
    NUserPresence.assign_assign hpresence]

theorem NMatchData.assign_assign_iff {data : NMatchData} (h : data.Portable) :
    NMatchData.assign (.assign data) = data ↔ data.data.size < 2 ^ 32 := by
  rw [NMatchData.assign_assign h, ← CBytes.toBytes_ofBytes_iff]
  constructor
  · intro he
    exact congrArg NMatchData.data he
  · intro he
    rw [he]

structure NMatchPresenceEvent where
  matchId : String
  (joins leaves : List NUserPresence)
deriving Inhabited

structure SNMatchPresenceEvent where
  matchId : CStr
  (joins leaves : CArray SNUserPresence)

def SNMatchPresenceEvent.assign (event : NMatchPresenceEvent) : SNMatchPresenceEvent where
  matchId := cStr event.matchId
  joins := .alloc SNUserPresence.assign event.joins
  leaves := .alloc SNUserPresence.assign event.leaves

def NMatchPresenceEvent.assign (cEvent : SNMatchPresenceEvent) : NMatchPresenceEvent where
  matchId := cEvent.matchId.text
  joins := cEvent.joins.toList.map NUserPresence.assign
  leaves := cEvent.leaves.toList.map NUserPresence.assign

def NMatchPresenceEvent.Portable (event : NMatchPresenceEvent) : Prop :=
  NulFree event.matchId ∧ EachCounted NUserPresence.Portable event.joins ∧
  EachCounted NUserPresence.Portable event.leaves

theorem NMatchPresenceEvent.assign_assign {event : NMatchPresenceEvent} (h : event.Portable) :
    NMatchPresenceEvent.assign (.assign event) = event := by
  obtain ⟨ht, hjoins, hleaves⟩ := h
  simp only [NMatchPresenceEvent.assign, SNMatchPresenceEvent.assign, CStr.text_ofString ht,
    hjoins.map_toList_alloc fun _ => NUserPresence.assign_assign,
    hleaves.map_toList_alloc fun _ => NUserPresence.assign_assign]

/-! ## Status and streams -/

structure NStatus where
  presences : List NUserPresence

structure SNStatus where
  presences : CArray SNUserPresence

def SNStatus.assign (status : NStatus) : SNStatus where
  presences := .alloc SNUserPresence.assign status.presences

def NStatus.assign (cStatus : SNStatus) : NStatus where
  presences := cStatus.presences.toList.map NUserPresence.assign

def NStatus.Portable (status : NStatus) : Prop :=
  EachCounted NUserPresence.Portable status.presences

theorem NStatus.assign_assign {status : NStatus} (h : status.Portable) :
    NStatus.assign (.assign status) = status := by
  simp only [NStatus.assign, SNStatus.assign,
    h.map_toList_alloc fun _ => NUserPresence.assign_assign]

structure NStatusPresenceEvent where
  (joins leaves : List NUserPresence)
deriving Inhabited

structure SNStatusPresenceEvent where
  (joins leaves : CArray SNUserPresence)

def SNStatusPresenceEvent.assign (event : NStatusPresenceEvent) : SNStatusPresenceEvent where
  joins := .alloc SNUserPresence.assign event.joins
  leaves := .alloc SNUserPresence.assign event.leaves

def NStatusPresenceEvent.assign (cEvent : SNStatusPresenceEvent) : NStatusPresenceEvent where
  joins := cEvent.joins.toList.map NUserPresence.assign
  leaves := cEvent.leaves.toList.map NUserPresence.assign

def NStatusPresenceEvent.Portable (event : NStatusPresenceEvent) : Prop :=
  EachCounted NUserPresence.Portable event.joins ∧ EachCounted NUserPresence.Portable event.leaves

theorem NStatusPresenceEvent.assign_assign {event : NStatusPresenceEvent} (h : event.Portable) :
    NStatusPresenceEvent.assign (.assign event) = event := by
  obtain ⟨hjoins, hleaves⟩ := h
  simp only [NStatusPresenceEvent.assign, SNStatusPresenceEvent.assign,
    hjoins.map_toList_alloc fun _ => NUserPresence.assign_assign,
    hleaves.map_toList_alloc fun _ => NUserPresence.assign_assign]

structure NStream where
  mode : Int32
  (subject subcontext label : String)
deriving Inhabited

structure SNStream where
  mode : Int32
  (subject subcontext label : CStr)

def SNStream.assign (stream : NStream) : SNStream where
  mode := stream.mode
  subject := cStr stream.subject
  subcontext := cStr stream.subcontext
  label := cStr stream.label

def NStream.assign (cStream : SNStream) : NStream where
  mode := cStream.mode
  subject := cStream.subject.text
  subcontext := cStream.subcontext.text
  label := cStream.label.text

def NStream.Portable (stream : NStream) : Prop :=
  AllNulFree [stream.subject, stream.subcontext, stream.label]

theorem NStream.assign_assign {stream : NStream} (h : stream.Portable) :
    NStream.assign (.assign stream) = stream := by
  simp only [NStream.Portable, allNulFree_cons] at h
  simp only [NStream.assign, SNStream.assign, CStr.text_ofString, h]

structure NStreamPresenceEvent where
  stream : NStream
  (joins leaves : List NUserPresence)
deriving Inhabited

structure SNStreamPresenceEvent where
  stream : SNStream
  (joins leaves : CArray SNUserPresence)

def SNStreamPresenceEvent.assign (event : NStreamPresenceEvent) : SNStreamPresenceEvent where
  stream := .assign event.stream
  joins := .alloc SNUserPresence.assign event.joins
  leaves := .alloc SNUserPresence.assign event.leaves

def NStreamPresenceEvent.assign (cEvent : SNStreamPresenceEvent) : NStreamPresenceEvent where
  stream := .assign cEvent.stream
  joins := cEvent.joins.toList.map NUserPresence.assign
  leaves := cEvent.leaves.toList.map NUserPresence.assign

def NStreamPresenceEvent.Portable (event : NStreamPresenceEvent) : Prop :=
  event.stream.Portable ∧ EachCounted NUserPresence.Portable event.joins ∧
  EachCounted NUserPresence.Portable event.leaves

theorem NStreamPresenceEvent.assign_assign {event : NStreamPresenceEvent} (h : event.Portable) :
    NStreamPresenceEvent.assign (.assign event) = event := by
  obtain ⟨hstream, hjoins, hleaves⟩ := h
  simp only [NStreamPresenceEvent.assign, SNStreamPresenceEvent.assign,
    NStream.assign_assign hstream, hjoins.map_toList_alloc fun _ => NUserPresence.assign_assign,
    hleaves.map_toList_alloc fun _ => NUserPresence.assign_assign]

structure NStreamData where
  stream : NStream
  sender : NUserPresence
  data : String
deriving Inhabited

structure SNStreamData where
  stream : SNStream
  sender : SNUserPresence
  data : CStr

def SNStreamData.assign (data : NStreamData) : SNStreamData where
  stream := .assign data.stream
  sender := .assign data.sender
  data := cStr data.data

def NStreamData.assign (cData : SNStreamData) : NStreamData where
  stream := .assign cData.stream
  sender := .assign cData.sender
  data := cData.data.text

def NStreamData.Portable (data : NStreamData) : Prop :=
  NulFree data.data ∧ data.stream.Portable ∧ data.sender.Portable

theorem NStreamData.assign_assign {data : NStreamData} (h : data.Portable) :
    NStreamData.assign (.assign data) = data := by
  obtain ⟨ht, hstream, hsender⟩ := h
  simp only [NStreamData.assign, SNStreamData.assign, CStr.text_ofString ht,
    NStream.assign_assign hstream, NUserPresence.assign_assign hsender]

end NakamaCpp.CApi
