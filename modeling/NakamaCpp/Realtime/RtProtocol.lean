import NakamaCpp.Api.Assign
import NakamaCpp.Realtime.RtProtobuf

/-!
# Envelopes as frames

The protocols of src/realtime/NRtClientProtocolInterface.h, the envelope that an operation of
src/realtime/NRtClient.cpp makes, and what its callbacks and listeners are given for the envelope
that a frame is.

    frames of pushes are heard in order, as what the server has pushed        (pushes_delivered)
-/

namespace NakamaCpp.RtApi

open Realtime CApi CInterop Lockstep

/-! ## The protocol -/

/-- A protocol that reads what it writes; the other one, NRtClientProtocol_Json, is two functions of
the JSON library of protobuf. -/
structure NRtClientProtocolInterface where
  serialize : Envelope → Option NBytes
  parse : NBytes → Option Envelope
  parse_serialize : ∀ {message output}, serialize message = some output → parse output = some message

def NRtClientProtocol_Protobuf (R : Api.Runtime) (hlimit : 4 ≤ R.format.recursionLimit) :
    NRtClientProtocolInterface where
  serialize := serialize R
  parse := parse R
  parse_serialize := parse_serialize hlimit

/-! ## Envelopes of operations -/

/-- The `id` of a `MatchJoin`. -/
def joinId : MatchJoinId → (k : IdCase) × k.Id
  | .matchId matchId => ⟨.matchId, matchId⟩
  | .token token => ⟨.token, token⟩

/-- The member of the oneof that an operation sets. -/
def ofRtMessage : RtMessage → (k : MessageCase) × Message k
  | .channelJoin target type persistence hidden =>
    ⟨.channelJoin, ({ target, type, persistence, hidden } : ChannelJoin)⟩
  | .channelLeave channelId => ⟨.channelLeave, ({ channelId } : ChannelLeave)⟩
  | .channelMessageSend channelId content =>
    ⟨.channelMessageSend, ({ channelId, content } : ChannelMessageSend)⟩
  | .channelMessageUpdate channelId messageId content =>
    ⟨.channelMessageUpdate, ({ channelId, messageId, content } : ChannelMessageUpdate)⟩
  | .channelMessageRemove channelId messageId =>
    ⟨.channelMessageRemove, ({ channelId, messageId } : ChannelMessageRemove)⟩
  | .matchCreate => ⟨.matchCreate, ({} : MatchCreate)⟩
  | .matchJoin id metadata => ⟨.matchJoin, ({ id := joinId id, metadata } : MatchJoin)⟩
  | .matchLeave matchId => ⟨.matchLeave, ({ matchId } : MatchLeave)⟩
  | .matchmakerAdd minCount maxCount query stringProperties numericProperties =>
    ⟨.matchmakerAdd, ({
      minCount, maxCount, query, stringProperties
      numericProperties := numericProperties.map fun _ x => x.toBits } : MatchmakerAdd)⟩
  | .matchmakerRemove ticket => ⟨.matchmakerRemove, ({ ticket } : MatchmakerRemove)⟩
  | .matchDataSend matchId opCode data presences =>
    ⟨.matchDataSend, ({ matchId, opCode, data, presences } : MatchDataSend)⟩
  | .statusFollow userIds => ⟨.statusFollow, ({ userIds } : StatusFollow)⟩
  | .statusUnfollow userIds => ⟨.statusUnfollow, ({ userIds } : StatusUnfollow)⟩
  | .statusUpdate status => ⟨.statusUpdate, ({ status } : StatusUpdate)⟩
  | .rpc id payload => ⟨.rpc, ({ id, payload } : Api.Rpc)⟩

/-- The envelope of an operation. -/
def requestEnvelope (cid : String) (op : RtOp) : Envelope := { cid, message := ofRtMessage op.message }

/-! ## What a frame brings -/

/-- The accessor of a member of the oneof: its default, if another one is set. -/
def Envelope.get (msg : Envelope) (k : MessageCase) : Message k :=
  if h : msg.message.1 = k then h ▸ msg.message.2 else Message.default k

/-- The envelope as `onTransportMessage` looks at it. -/
def Envelope.received {π : Type} (payload : Envelope → π) (msg : Envelope) : Realtime.Envelope π where
  cid := msg.cid
  messageCase := msg.message.1
  error := Error.assign (msg.get .error)
  payload := payload msg

/-- The arguments of the listener methods for each push. -/
def Envelope.pushed (msg : Envelope) : RtPayload where
  channelMessage := Api.ChannelMessage.assign (msg.get .channelMessage)
  channelPresenceEvent := ChannelPresenceEvent.assign (msg.get .channelPresenceEvent)
  matchData := MatchData.assign (msg.get .matchData)
  matchPresenceEvent := MatchPresenceEvent.assign (msg.get .matchPresenceEvent)
  matchmakerMatched := MatchmakerMatched.assign (msg.get .matchmakerMatched)
  notifications := Notifications.assign (msg.get .notifications)
  statusPresenceEvent := StatusPresenceEvent.assign (msg.get .statusPresenceEvent)
  streamData := StreamData.assign (msg.get .streamData)
  streamPresenceEvent := StreamPresenceEvent.assign (msg.get .streamPresenceEvent)

/-- `_protocol->parse`, with the `assign`s for a listener. -/
def parsePush (P : NRtClientProtocolInterface) : Parse :=
  fun data => (P.parse data).map (Envelope.received Envelope.pushed)

/-- The closure that an operation stores as `successCallback`: what the callback is given. -/
def answer (op : RtOp) (msg : Envelope) : RtResult :=
  match op with
  | .joinChat .. => .channel (Channel.assign (msg.get .channel))
  | .leaveChat .. | .leaveMatch .. | .removeMatchmaker .. | .unfollowUsers ..
  | .updateStatus .. | .sendMatchData .. => .empty
  | .writeChatMessage .. | .updateChatMessage .. | .removeChatMessage .. =>
    .channelMessageAck (ChannelMessageAck.assign (msg.get .channelMessageAck))
  | .createMatch | .joinMatch .. | .joinMatchByToken .. => .match_ (Match.assign (msg.get .match_))
  | .addMatchmaker .. =>
    .matchmakerTicket (MatchmakerTicket.assign (msg.get .matchmakerTicket))
  | .followUsers .. => .status (Status.assign (msg.get .status))
  | .rpc .. => .rpc (Api.Rpc.assign (msg.get .rpc))

/-- What a listener hears when the server pushes a message; what is no push is an error. -/
def pushEvent (isConnected : Bool) : (k : MessageCase) × Message k → ListenerEvent
  | ⟨.channelMessage, m⟩ => .onChannelMessage (Api.ChannelMessage.assign m)
  | ⟨.channelPresenceEvent, m⟩ => .onChannelPresence (ChannelPresenceEvent.assign m)
  | ⟨.error, m⟩ => .onError (Error.assign m)
  | ⟨.matchData, m⟩ => .onMatchData (MatchData.assign m)
  | ⟨.matchPresenceEvent, m⟩ => .onMatchPresence (MatchPresenceEvent.assign m)
  | ⟨.matchmakerMatched, m⟩ => .onMatchmakerMatched (MatchmakerMatched.assign m)
  | ⟨.notifications, m⟩ => .onNotifications (Notifications.assign m)
  | ⟨.statusPresenceEvent, m⟩ => .onStatusPresence (StatusPresenceEvent.assign m)
  | ⟨.streamData, m⟩ => .onStreamData (StreamData.assign m)
  | ⟨.streamPresenceEvent, m⟩ => .onStreamPresence (StreamPresenceEvent.assign m)
  | _ => .onError {
      code := if isConnected then RtErrorCode.transportError else RtErrorCode.connectError
      message := "Unknown message received" }

/-! ## Pushes -/

variable {P : NRtClientProtocolInterface} {isConnected : Bool}

theorem parsePush_serialize {message : (k : MessageCase) × Message k} {frame : NBytes}
    (h : P.serialize { message } = some frame) :
    parsePush P frame = some (Envelope.received Envelope.pushed { message }) := by
  rw [parsePush, P.parse_serialize h, Option.map_some]

/-- A listener hears one event of a push. -/
theorem dispatchPush_calls (isConnected : Bool) (c : NRtClient) (hc : c.listener = true)
    (message : (k : MessageCase) × Message k) :
    (c.dispatchPush isConnected (Envelope.received Envelope.pushed { message })).calls.filterMap
      ListenerEvent.ofCall = [pushEvent isConnected message] := by
  rw [NRtClient.dispatchPush, if_pos hc]
  have herror : (c.onTransportError isConnected "Unknown message received" :
      Dispatch RtPayload).calls.filterMap ListenerEvent.ofCall = [.onError {
        code := if isConnected then RtErrorCode.transportError else RtErrorCode.connectError
        message := "Unknown message received" }] := by
    rw [NRtClient.onTransportError, if_pos hc]
    rfl
  obtain ⟨k, m⟩ := message
  cases k
  all_goals first | rfl | exact herror

theorem fire_push (c : NRtClient) (hc : c.listener = true)
    {message : (k : MessageCase) × Message k} {frame : NBytes}
    (h : P.serialize { message } = some frame) :
    fire c isConnected (parsePush P) (.message frame) = .ok [pushEvent isConnected message] := by
  have hdispatch := dispatchPush_calls isConnected c hc message
  simp only [fire, NRtClient.onTransportMessage, parsePush_serialize h]
  exact congrArg (fun es => Except.ok es) hdispatch

/-- A frame with a message that the server pushes, and the client when it arrives. -/
structure Push (P : NRtClientProtocolInterface) where
  isConnected : Bool
  /-- the pending requests, of a client that is used directly and of a wrapped one -/
  (direct wrapped : ReqTable)
  message : (k : MessageCase) × Message k
  frame : NBytes
  serialized : P.serialize { message } = some frame

def Push.event (p : Push P) : ListenerEvent := pushEvent p.isConnected p.message

variable {L : Type}

/-- The server pushes, or the user sets a listener. -/
abbrev PushInput (P : NRtClientProtocolInterface) (L : Type) := Option L ⊕ Push P

def PushInput.input : PushInput P L → Input L
  | .inl listener => .setListener listener
  | .inr p => .transport p.isConnected p.direct p.wrapped (.message p.frame)

/-- What is heard of each input: a push, by the listener that is set then. -/
def heardBy : Option L → List (PushInput P L) → List (Notified L)
  | _, [] => []
  | _, .inl listener :: is => [] :: heardBy listener is
  | listener, .inr p :: is => (listener.toList.map fun l => (l, p.event)) :: heardBy listener is

/-- Every push, at a client with a listener or without. -/
theorem Push.fire (p : Push P) (c : NRtClient) :
    fire c p.isConnected (parsePush P) (.message p.frame) =
      .ok (if c.listener then [p.event] else []) := by
  have hnew : (TransportEvent.message p.frame).Unsolicited (parsePush P) c.reqContexts := by
    intro msg cid hmsg hcid
    rw [parsePush_serialize p.serialized] at hmsg
    cases hmsg
    exact absurd rfl hcid
  rw [fire_of_unsolicited hnew, events, fire_push listening rfl p.serialized]
  rfl

/-- One push, directly. -/
theorem directStep_push (p : Push P) (listener : Option L) :
    directStep (parsePush P) listener (PushInput.input (.inr p)) =
      (listener, .ok (listener.toList.map fun l => (l, p.event))) := by
  simp only [PushInput.input, directStep, p.fire]
  cases listener <;> rfl

/-- One push, through the wrapper. -/
theorem wrappedStep_push {listener : Option L} {w : Wrapped L} (hw : Linked listener w)
    (p : Push P) (hp : p.event.Portable ∧ p.event.Sized) :
    Wrapped.step (parsePush P) w (PushInput.input (.inr p)) =
      (w, some (.ok (listener.toList.map fun l => (l, p.event)))) := by
  have hevents : ∀ e ∈ [p.event], e.Portable ∧ e.Sized := List.forall_mem_singleton.2 hp
  simp only [PushInput.input, Wrapped.step, p.fire, if_true]
  rw [hw.notifyAll hevents]
  cases listener <;> rfl

theorem outputs_direct (inputs : List (PushInput P L)) (listener : Option L) :
    outputs (directStep (parsePush P)) listener (inputs.map PushInput.input) =
      (heardBy listener inputs).map .ok := by
  induction inputs generalizing listener with
  | nil => rfl
  | cons i is ih =>
    cases i with
    | inl listener' => exact congrArg (_ :: ·) (ih listener')
    | inr p =>
      rw [List.map_cons, outputs, directStep_push, ih]
      rfl

theorem outputs_wrapped {inputs : List (PushInput P L)}
    (hp : ∀ p : Push P, Sum.inr p ∈ inputs → p.event.Portable ∧ p.event.Sized)
    {listener : Option L} {w : Wrapped L} (hw : Linked listener w) :
    outputs (Wrapped.step (parsePush P)) w (inputs.map PushInput.input) =
      (heardBy listener inputs).map fun calls => some (.ok calls) := by
  induction inputs generalizing listener w with
  | nil => rfl
  | cons i is ih =>
    have htail : ∀ p : Push P, Sum.inr p ∈ is → p.event.Portable ∧ p.event.Sized :=
      fun p h => hp p (List.mem_cons_of_mem _ h)
    cases i with
    | inl listener' => exact congrArg (_ :: ·) (ih htail (linked_setListener hw listener'))
    | inr p =>
      rw [List.map_cons, outputs, wrappedStep_push hw p (hp p List.mem_cons_self), ih htail hw]
      rfl

/-- **Pushes.**  Whatever the server pushes, and whatever listeners are set meanwhile, the listener
of that moment hears each push once, in order, with the data of its message; through the wrapper
as well, if C can pass on what is pushed. -/
theorem pushes_delivered (inputs : List (PushInput P L)) :
    outputs (directStep (parsePush P)) none (inputs.map PushInput.input) =
        (heardBy none inputs).map .ok ∧
      ((∀ p : Push P, Sum.inr p ∈ inputs → p.event.Portable ∧ p.event.Sized) →
        outputs (Wrapped.step (parsePush P)) {} (inputs.map PushInput.input) =
          (heardBy none inputs).map fun calls => some (.ok calls)) :=
  ⟨outputs_direct inputs none, fun hp => outputs_wrapped hp linked_init⟩

/-! ### A run -/

/-- Protobuf, in the format with varints. -/
def varintProtocol : NRtClientProtocolInterface :=
  NRtClientProtocol_Protobuf varintRuntime (by decide)

def joinedPush : Push varintProtocol where
  isConnected := true
  direct := ∅
  wrapped := ∅
  message := joined.message
  frame := joinedFrame
  serialized := by decide +kernel

theorem pushes_delivered_joined :
    outputs (directStep (parsePush varintProtocol)) none
        ([.inl (some 7), .inr joinedPush].map PushInput.input) =
        (heardBy none [.inl (some 7), .inr joinedPush]).map .ok ∧
      outputs (Wrapped.step (parsePush varintProtocol)) {}
          ([.inl (some 7), .inr joinedPush].map PushInput.input) =
        (heardBy none [.inl (some 7), .inr joinedPush]).map fun calls => some (.ok calls) := by
  have hpushes := pushes_delivered ([.inl (some 7), .inr joinedPush] : List (PushInput _ Nat))
  refine ⟨hpushes.1, hpushes.2 fun p hp => ?_⟩
  obtain rfl : p = joinedPush := by simpa using hp
  have hportable : AllNulFree ["u", "s", "n", "away"] := by decide
  exact ⟨⟨by decide, ⟨by decide, List.forall_mem_singleton.2 hportable⟩, by decide,
    List.forall_mem_nil _⟩, trivial⟩

end NakamaCpp.RtApi
