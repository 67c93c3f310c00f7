import NakamaCpp.Api.Messages
import NakamaCpp.Lib.Codec

/-!
# Codecs of the messages

What the code that is generated for an `Envelope` and the messages in it, in
src/api/github.com/heroiclabs/nakama-common/api/api.pb.cc and rtapi/realtime.pb.cc, does with their
fields.  Texts are in UTF-8; of what is read only that is kept which an accessor gives.

    e.codec.size < 2 ^ 31  →  parse (serialize e) = some e                     (parse_serialize)
-/

namespace NakamaCpp.Api

open Wire Wire.ValueCodec Wire.Codec

/-- The library of the generated code: its format, and the messages of google.protobuf. -/
structure Runtime where
  format : Format
  timestamp : WellKnown Timestamp
  boolValue : WellKnown Bool
  int32Value : WellKnown Int32
  stringValue : WellKnown String

variable (R : Runtime)

def timestamp : ValueCodec R.format Timestamp := wellKnown R.timestamp

def boolValue : ValueCodec R.format Bool := wellKnown R.boolValue

def int32Value : ValueCodec R.format Int32 := wellKnown R.int32Value

def stringValue : ValueCodec R.format String := wellKnown R.stringValue

/-! ## nakama.api -/

def Notification.codec : Codec R.format Notification :=
  ((singular string 1).prod <| (singular string 2).prod <| (singular string 3).prod <|
    (singular int32 4).prod <| (singular string 5).prod <| (optional (timestamp R) 6).prod <|
    singular bool 7).equiv
    ⟨fun (id, subject, content, code, senderId, createTime, persistent) =>
        ⟨id, subject, content, code, senderId, createTime, persistent⟩,
      fun m => (m.id, m.subject, m.content, m.code, m.senderId, m.createTime, m.persistent),
      fun _ => rfl, fun _ => rfl⟩

def ChannelMessage.codec : Codec R.format ChannelMessage :=
  ((singular string 1).prod <| (singular string 2).prod <| (optional (int32Value R) 3).prod <|
    (singular string 4).prod <| (singular string 5).prod <| (singular string 6).prod <|
    (optional (timestamp R) 7).prod <| (optional (timestamp R) 8).prod <| (optional (boolValue R) 9).prod <|
    (singular string 10).prod <| (singular string 11).prod <| (singular string 12).prod <|
    singular string 13).equiv
    ⟨fun (channelId, messageId, code, senderId, username, content, createTime, updateTime,
        persistent, roomName, groupId, userIdOne, userIdTwo) =>
        ⟨channelId, messageId, code, senderId, username, content, createTime, updateTime,
         persistent, roomName, groupId, userIdOne, userIdTwo⟩,
      fun m => (m.channelId, m.messageId, m.code, m.senderId, m.username, m.content, m.createTime,
        m.updateTime, m.persistent, m.roomName, m.groupId, m.userIdOne, m.userIdTwo),
      fun _ => rfl, fun _ => rfl⟩

def Rpc.codec : Codec R.format Rpc :=
  ((singular string 1).prod <| (singular string 2).prod <| singular string 3).equiv
    ⟨fun (id, payload, httpKey) => ⟨id, payload, httpKey⟩,
      fun m => (m.id, m.payload, m.httpKey),
      fun _ => rfl, fun _ => rfl⟩

end NakamaCpp.Api

namespace NakamaCpp.RtApi

open Api Wire Wire.ValueCodec Wire.Codec
open Realtime (MessageCase)
open CApi (UserPresence)

variable (R : Runtime)

/-! ## nakama.realtime -/

def UserPresence.codec : Codec R.format UserPresence :=
  ((singular string 1).prod <| (singular string 2).prod <| (singular string 3).prod <|
    (singular bool 4).prod <| optional (stringValue R) 5).equiv
    ⟨fun (userId, sessionId, username, persistence, status) =>
        ⟨userId, sessionId, username, persistence, status⟩,
      fun m => (m.userId, m.sessionId, m.username, m.persistence, m.status),
      fun _ => rfl, fun _ => rfl⟩

def Channel.codec : Codec R.format Channel :=
  ((singular string 1).prod <| (repeated (message (UserPresence.codec R)) 2).prod <|
    (optional (message (UserPresence.codec R)) 3).prod <| (singular string 4).prod <|
    (singular string 5).prod <| (singular string 6).prod <| singular string 7).equiv
    ⟨fun (id, presences, self, roomName, groupId, userIdOne, userIdTwo) =>
        ⟨id, presences, self, roomName, groupId, userIdOne, userIdTwo⟩,
      fun m => (m.id, m.presences, m.self, m.roomName, m.groupId, m.userIdOne, m.userIdTwo),
      fun _ => rfl, fun _ => rfl⟩

def ChannelJoin.codec : Codec R.format ChannelJoin :=
  ((singular string 1).prod <| (singular int32 2).prod <| (optional (boolValue R) 3).prod <|
    optional (boolValue R) 4).equiv
    ⟨fun (target, type, persistence, hidden) => ⟨target, type, persistence, hidden⟩,
      fun m => (m.target, m.type, m.persistence, m.hidden),
      fun _ => rfl, fun _ => rfl⟩

def ChannelLeave.codec : Codec R.format ChannelLeave :=
  (singular string 1).equiv ⟨.mk, ChannelLeave.channelId, fun _ => rfl, fun _ => rfl⟩

def ChannelMessageAck.codec : Codec R.format ChannelMessageAck :=
  ((singular string 1).prod <| (singular string 2).prod <| (optional (int32Value R) 3).prod <|
    (singular string 4).prod <| (optional (timestamp R) 5).prod <| (optional (timestamp R) 6).prod <|
    (optional (boolValue R) 7).prod <| (singular string 8).prod <| (singular string 9).prod <|
    (singular string 10).prod <| singular string 11).equiv
    ⟨fun (channelId, messageId, code, username, createTime, updateTime, persistent, roomName,
        groupId, userIdOne, userIdTwo) =>
        ⟨channelId, messageId, code, username, createTime, updateTime, persistent, roomName,
         groupId, userIdOne, userIdTwo⟩,
      fun m => (m.channelId, m.messageId, m.code, m.username, m.createTime, m.updateTime,
        m.persistent, m.roomName, m.groupId, m.userIdOne, m.userIdTwo),
      fun _ => rfl, fun _ => rfl⟩

def ChannelMessageSend.codec : Codec R.format ChannelMessageSend :=
  ((singular string 1).prod <| singular string 2).equiv
    ⟨fun (channelId, content) => ⟨channelId, content⟩,
      fun m => (m.channelId, m.content),
      fun _ => rfl, fun _ => rfl⟩

def ChannelMessageUpdate.codec : Codec R.format ChannelMessageUpdate :=
  ((singular string 1).prod <| (singular string 2).prod <| singular string 3).equiv
    ⟨fun (channelId, messageId, content) => ⟨channelId, messageId, content⟩,
      fun m => (m.channelId, m.messageId, m.content),
      fun _ => rfl, fun _ => rfl⟩

def ChannelMessageRemove.codec : Codec R.format ChannelMessageRemove :=
  ((singular string 1).prod <| singular string 2).equiv
    ⟨fun (channelId, messageId) => ⟨channelId, messageId⟩,
      fun m => (m.channelId, m.messageId),
      fun _ => rfl, fun _ => rfl⟩

def ChannelPresenceEvent.codec : Codec R.format ChannelPresenceEvent :=
  ((singular string 1).prod <| (repeated (message (UserPresence.codec R)) 2).prod <|
    (repeated (message (UserPresence.codec R)) 3).prod <| (singular string 4).prod <|
    (singular string 5).prod <| (singular string 6).prod <| singular string 7).equiv
    ⟨fun (channelId, joins, leaves, roomName, groupId, userIdOne, userIdTwo) =>
        ⟨channelId, joins, leaves, roomName, groupId, userIdOne, userIdTwo⟩,
      fun m => (m.channelId, m.joins, m.leaves, m.roomName, m.groupId, m.userIdOne, m.userIdTwo),
      fun _ => rfl, fun _ => rfl⟩

def Error.codec : Codec R.format Error :=
  ((singular int32 1).prod <| (singular string 2).prod <| map string 3).equiv
    ⟨fun (code, message, context) => ⟨code, message, context⟩,
      fun m => (m.code, m.message, m.context),
      fun _ => rfl, fun _ => rfl⟩

def Match.codec : Codec R.format Match :=
  ((singular string 1).prod <| (singular bool 2).prod <| (optional (stringValue R) 3).prod <|
    (singular int32 4).prod <| (repeated (message (UserPresence.codec R)) 5).prod <|
    optional (message (UserPresence.codec R)) 6).equiv
    ⟨fun (matchId, authoritative, label, size, presences, self) =>
        ⟨matchId, authoritative, label, size, presences, self⟩,
      fun m => (m.matchId, m.authoritative, m.label, m.size, m.presences, m.self),
      fun _ => rfl, fun _ => rfl⟩

def MatchCreate.codec : Codec R.format MatchCreate :=
  Codec.empty.equiv ⟨fun _ => {}, fun _ => (), fun _ => rfl, fun _ => rfl⟩

def MatchData.codec : Codec R.format MatchData :=
  ((singular string 1).prod <| (optional (message (UserPresence.codec R)) 2).prod <|
    (singular int64 3).prod <| (singular bytes 4).prod <| singular bool 5).equiv
    ⟨fun (matchId, presence, opCode, data, reliable) =>
        ⟨matchId, presence, opCode, data, reliable⟩,
      fun m => (m.matchId, m.presence, m.opCode, m.data, m.reliable),
      fun _ => rfl, fun _ => rfl⟩

def MatchDataSend.codec : Codec R.format MatchDataSend :=
  ((singular string 1).prod <| (singular int64 2).prod <| (singular bytes 3).prod <|
    (repeated (message (UserPresence.codec R)) 4).prod <| singular bool 5).equiv
    ⟨fun (matchId, opCode, data, presences, reliable) =>
        ⟨matchId, opCode, data, presences, reliable⟩,
      fun m => (m.matchId, m.opCode, m.data, m.presences, m.reliable),
      fun _ => rfl, fun _ => rfl⟩

namespace IdCase

def number : IdCase → Nat
  | .matchId => 1
  | .token => 2
  | .notSet => 0

def value : (k : IdCase) → ValueCodec R.format k.Id
  | .matchId | .token => string
  | .notSet => message Codec.empty

end IdCase

def MatchJoin.codec : Codec R.format MatchJoin :=
  ((oneof .notSet IdCase.number (IdCase.value R) [.matchId, .token] 1
    (fun k => by cases k <;> decide) (by decide) (by decide) (by decide)
    fun k => by cases k <;> exact Nat.le_of_ble_eq_true rfl).prod <| map string 3).equiv
    ⟨fun (id, metadata) => ⟨id, metadata⟩,
      fun m => (m.id, m.metadata),
      fun _ => rfl, fun _ => rfl⟩

def MatchLeave.codec : Codec R.format MatchLeave :=
  (singular string 1).equiv ⟨.mk, MatchLeave.matchId, fun _ => rfl, fun _ => rfl⟩

def MatchPresenceEvent.codec : Codec R.format MatchPresenceEvent :=
  ((singular string 1).prod <| (repeated (message (UserPresence.codec R)) 2).prod <|
    repeated (message (UserPresence.codec R)) 3).equiv
    ⟨fun (matchId, joins, leaves) => ⟨matchId, joins, leaves⟩,
      fun m => (m.matchId, m.joins, m.leaves),
      fun _ => rfl, fun _ => rfl⟩

def MatchmakerAdd.codec : Codec R.format MatchmakerAdd :=
  ((singular int32 1).prod <| (singular int32 2).prod <| (singular string 3).prod <|
    (map string 4).prod <| map double 5).equiv
    ⟨fun (minCount, maxCount, query, stringProperties, numericProperties) =>
        ⟨minCount, maxCount, query, stringProperties, numericProperties⟩,
      fun m => (m.minCount, m.maxCount, m.query, m.stringProperties, m.numericProperties),
      fun _ => rfl, fun _ => rfl⟩

def MatchmakerUser.codec : Codec R.format MatchmakerUser :=
  ((optional (message (UserPresence.codec R)) 1).prod <| (map string 5).prod <| map double 6).equiv
    ⟨fun (presence, stringProperties, numericProperties) =>
        ⟨presence, stringProperties, numericProperties⟩,
      fun m => (m.presence, m.stringProperties, m.numericProperties),
      fun _ => rfl, fun _ => rfl⟩

def MatchmakerMatched.codec : Codec R.format MatchmakerMatched :=
  ((singular string 1).prod <| (singular string 2).prod <| (singular string 3).prod <|
    (repeated (message (MatchmakerUser.codec R)) 4).prod <|
    optional (message (MatchmakerUser.codec R)) 5).equiv
    ⟨fun (ticket, matchId, token, users, self) => ⟨ticket, matchId, token, users, self⟩,
      fun m => (m.ticket, m.matchId, m.token, m.users, m.self),
      fun _ => rfl, fun _ => rfl⟩

def MatchmakerRemove.codec : Codec R.format MatchmakerRemove :=
  (singular string 1).equiv ⟨.mk, MatchmakerRemove.ticket, fun _ => rfl, fun _ => rfl⟩

def MatchmakerTicket.codec : Codec R.format MatchmakerTicket :=
  (singular string 1).equiv ⟨.mk, MatchmakerTicket.ticket, fun _ => rfl, fun _ => rfl⟩

def Notifications.codec : Codec R.format Notifications :=
  (repeated (message (Notification.codec R)) 1).equiv
    ⟨.mk, Notifications.notifications, fun _ => rfl, fun _ => rfl⟩

def Status.codec : Codec R.format Status :=
  (repeated (message (UserPresence.codec R)) 1).equiv
    ⟨.mk, Status.presences, fun _ => rfl, fun _ => rfl⟩

def StatusFollow.codec : Codec R.format StatusFollow :=
  ((repeated string 1).prod <| repeated string 2).equiv
    ⟨fun (userIds, usernames) => ⟨userIds, usernames⟩,
      fun m => (m.userIds, m.usernames),
      fun _ => rfl, fun _ => rfl⟩

def StatusPresenceEvent.codec : Codec R.format StatusPresenceEvent :=
  ((repeated (message (UserPresence.codec R)) 2).prod <| repeated (message (UserPresence.codec R)) 3).equiv
    ⟨fun (joins, leaves) => ⟨joins, leaves⟩,
      fun m => (m.joins, m.leaves),
      fun _ => rfl, fun _ => rfl⟩

def StatusUnfollow.codec : Codec R.format StatusUnfollow :=
  (repeated string 1).equiv ⟨.mk, StatusUnfollow.userIds, fun _ => rfl, fun _ => rfl⟩

def StatusUpdate.codec : Codec R.format StatusUpdate :=
  (optional (stringValue R) 1).equiv ⟨.mk, StatusUpdate.status, fun _ => rfl, fun _ => rfl⟩

def Stream.codec : Codec R.format Stream :=
  ((singular int32 1).prod <| (singular string 2).prod <| (singular string 3).prod <|
    singular string 4).equiv
    ⟨fun (mode, subject, subcontext, label) => ⟨mode, subject, subcontext, label⟩,
      fun m => (m.mode, m.subject, m.subcontext, m.label),
      fun _ => rfl, fun _ => rfl⟩

def StreamData.codec : Codec R.format StreamData :=
  ((optional (message (Stream.codec R)) 1).prod <| (optional (message (UserPresence.codec R)) 2).prod <|
    (singular string 3).prod <| singular bool 4).equiv
    ⟨fun (stream, sender, data, reliable) => ⟨stream, sender, data, reliable⟩,
      fun m => (m.stream, m.sender, m.data, m.reliable),
      fun _ => rfl, fun _ => rfl⟩

def StreamPresenceEvent.codec : Codec R.format StreamPresenceEvent :=
  ((optional (message (Stream.codec R)) 1).prod <| (repeated (message (UserPresence.codec R)) 2).prod <|
    repeated (message (UserPresence.codec R)) 3).equiv
    ⟨fun (stream, joins, leaves) => ⟨stream, joins, leaves⟩,
      fun m => (m.stream, m.joins, m.leaves),
      fun _ => rfl, fun _ => rfl⟩

def Ping.codec : Codec R.format Ping :=
  Codec.empty.equiv ⟨fun _ => {}, fun _ => (), fun _ => rfl, fun _ => rfl⟩

def Pong.codec : Codec R.format Pong :=
  Codec.empty.equiv ⟨fun _ => {}, fun _ => (), fun _ => rfl, fun _ => rfl⟩

/-! ## The envelope -/

/-- The numbers of `Envelope::MessageCase` are those of the fields. -/
def number : MessageCase → Nat
  | .channel => 2
  | .channelJoin => 3
  | .channelLeave => 4
  | .channelMessage => 5
  | .channelMessageAck => 6
  | .channelMessageSend => 7
  | .channelMessageUpdate => 8
  | .channelMessageRemove => 9
  | .channelPresenceEvent => 10
  | .error => 11
  | .match_ => 12
  | .matchCreate => 13
  | .matchData => 14
  | .matchDataSend => 15
  | .matchJoin => 16
  | .matchLeave => 17
  | .matchPresenceEvent => 18
  | .matchmakerAdd => 19
  | .matchmakerMatched => 20
  | .matchmakerRemove => 21
  | .matchmakerTicket => 22
  | .notifications => 23
  | .rpc => 24
  | .status => 25
  | .statusFollow => 26
  | .statusPresenceEvent => 27
  | .statusUnfollow => 28
  | .statusUpdate => 29
  | .streamData => 30
  | .streamPresenceEvent => 31
  | .ping => 32
  | .pong => 33
  | .notSet => 0

def value : (k : MessageCase) → ValueCodec R.format (Message k)
  | .channel => message (Channel.codec R)
  | .channelJoin => message (ChannelJoin.codec R)
  | .channelLeave => message (ChannelLeave.codec R)
  | .channelMessage => message (ChannelMessage.codec R)
  | .channelMessageAck => message (ChannelMessageAck.codec R)
  | .channelMessageSend => message (ChannelMessageSend.codec R)
  | .channelMessageUpdate => message (ChannelMessageUpdate.codec R)
  | .channelMessageRemove => message (ChannelMessageRemove.codec R)
  | .channelPresenceEvent => message (ChannelPresenceEvent.codec R)
  | .error => message (Error.codec R)
  | .match_ => message (Match.codec R)
  | .matchCreate => message (MatchCreate.codec R)
  | .matchData => message (MatchData.codec R)
  | .matchDataSend => message (MatchDataSend.codec R)
  | .matchJoin => message (MatchJoin.codec R)
  | .matchLeave => message (MatchLeave.codec R)
  | .matchPresenceEvent => message (MatchPresenceEvent.codec R)
  | .matchmakerAdd => message (MatchmakerAdd.codec R)
  | .matchmakerMatched => message (MatchmakerMatched.codec R)
  | .matchmakerRemove => message (MatchmakerRemove.codec R)
  | .matchmakerTicket => message (MatchmakerTicket.codec R)
  | .notifications => message (Notifications.codec R)
  | .rpc => message (Rpc.codec R)
  | .status => message (Status.codec R)
  | .statusFollow => message (StatusFollow.codec R)
  | .statusPresenceEvent => message (StatusPresenceEvent.codec R)
  | .statusUnfollow => message (StatusUnfollow.codec R)
  | .statusUpdate => message (StatusUpdate.codec R)
  | .streamData => message (StreamData.codec R)
  | .streamPresenceEvent => message (StreamPresenceEvent.codec R)
  | .ping => message (Ping.codec R)
  | .pong => message (Pong.codec R)
  | .notSet => message Codec.empty

theorem height_value (k : MessageCase) : (value R k).height ≤ 4 := by
  cases k <;> exact Nat.le_of_ble_eq_true rfl

/-- All members. -/
def members : List MessageCase :=
  [.channel, .channelJoin, .channelLeave, .channelMessage, .channelMessageAck,
   .channelMessageSend, .channelMessageUpdate, .channelMessageRemove, .channelPresenceEvent,
   .error, .match_, .matchCreate, .matchData, .matchDataSend, .matchJoin, .matchLeave,
   .matchPresenceEvent, .matchmakerAdd, .matchmakerMatched, .matchmakerRemove,
   .matchmakerTicket, .notifications, .rpc, .status, .statusFollow, .statusPresenceEvent,
   .statusUnfollow, .statusUpdate, .streamData, .streamPresenceEvent, .ping, .pong]

def Envelope.codec : Codec R.format Envelope :=
  ((singular string 1).prod <| oneof .notSet number (value R) members 4
    (fun k => by cases k <;> decide) (by decide) (by decide) (by decide) (height_value R)).equiv
    ⟨fun (cid, message) => ⟨cid, message⟩,
      fun m => (m.cid, m.message),
      fun _ => rfl, fun _ => rfl⟩

end NakamaCpp.RtApi
