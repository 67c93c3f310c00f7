import NakamaCpp.CApi.RtData
import NakamaCpp.Lib.Lockstep

/-!
# Listener events through the C interface

A listener set on `NRtClient` is called by the client.  A listener set on `NRtClientWrapper` is
called by a static function of the wrapper, which is called with a C structure by a closure of
src/nakama-c/realtime/NRtClientC.cpp, which is a callback of the `NRtDefaultClientListener` that
`saveRtClient` sets on the wrapped client.

Both systems are machines whose inputs are the events of the transport and `setListener`; an
output is the calls that listeners get, or an exception out of the transport's callback.

    inputs that leave the user data alone, portable, that answer no request
      →  outputs wrapped = outputs direct                                (routed_identically)
-/

namespace NakamaCpp.CApi

open CppStd Realtime CInterop Lockstep

/-! ## Events -/

/-- What `assign` makes of each push message that an `Envelope` may hold. -/
structure RtPayload where
  channelMessage : NChannelMessage
  channelPresenceEvent : NChannelPresenceEvent
  matchData : NMatchData
  matchPresenceEvent : NMatchPresenceEvent
  matchmakerMatched : NMatchmakerMatched
  notifications : NNotificationList
  statusPresenceEvent : NStatusPresenceEvent
  streamData : NStreamData
  streamPresenceEvent : NStreamPresenceEvent
deriving Inhabited

/-- A call of a method of `NRtClientListenerInterface`. -/
inductive ListenerEvent
  | onConnect
  | onDisconnect (info : NRtClientDisconnectInfo)
  | onError (error : NRtError)
  | onChannelMessage (message : NChannelMessage)
  | onChannelPresence (presence : NChannelPresenceEvent)
  | onMatchmakerMatched (matched : NMatchmakerMatched)
  | onMatchData (matchData : NMatchData)
  | onMatchPresence (matchPresence : NMatchPresenceEvent)
  | onNotifications (notifications : NNotificationList)
  | onStatusPresence (presence : NStatusPresenceEvent)
  | onStreamPresence (presence : NStreamPresenceEvent)
  | onStreamData (data : NStreamData)

/-- The listener method that `onTransportMessage` calls, with what it gives it. -/
def ListenerEvent.ofCall : UserCall RtPayload → Option ListenerEvent
  | .listener (.onError error) => some (.onError error)
  | .listener (.onChannelMessage msg) => some (.onChannelMessage msg.channelMessage)
  | .listener (.onChannelPresence msg) => some (.onChannelPresence msg.channelPresenceEvent)
  | .listener (.onMatchData msg) => some (.onMatchData msg.matchData)
  | .listener (.onMatchPresence msg) => some (.onMatchPresence msg.matchPresenceEvent)
  | .listener (.onMatchmakerMatched msg) => some (.onMatchmakerMatched msg.matchmakerMatched)
  | .listener (.onNotifications msg) => some (.onNotifications msg.notifications)
  | .listener (.onStatusPresence msg) => some (.onStatusPresence msg.statusPresenceEvent)
  | .listener (.onStreamData msg) => some (.onStreamData msg.streamData)
  | .listener (.onStreamPresence msg) => some (.onStreamPresence msg.streamPresenceEvent)
  | .listener .onConnect | .listener .onDisconnect | .success .. | .error .. => none

/-- A callback of the transport. -/
inductive TransportEvent
  | connected
  | disconnected (info : NRtClientDisconnectInfo)
  | error (description : String)
  | message (data : NBytes)

/-- `_protocol->parse` with the `assign`s of DataHelper.cpp. -/
abbrev Parse := NBytes → Option (Envelope RtPayload)

/-- The listener calls that an event makes the client do. -/
def fire (c : NRtClient) (isConnected : Bool) (parse : Parse) :
    TransportEvent → Except StdError (List ListenerEvent)
  | .connected => .ok (if c.listener then [.onConnect] else [])
  | .disconnected info => .ok (if c.listener then [.onDisconnect info] else [])
  | .error description =>
    .ok ((c.onTransportError isConnected description).calls.filterMap ListenerEvent.ofCall)
  | .message data => do
    return (← c.onTransportMessage isConnected parse data).calls.filterMap ListenerEvent.ofCall

variable {L : Type}

/-- The calls that listeners get, in order. -/
abbrev Notified (L : Type) := List (L × ListenerEvent)

/-- An input to either system.  `direct` and `wrapped` are the requests that are pending then in
the client that is used directly and in the wrapped one. -/
inductive Input (L : Type)
  | setListener (listener : Option L)
  | setUserData
  | transport (isConnected : Bool) (direct wrapped : ReqTable) (event : TransportEvent)

/-! ## A listener set on the client -/

/-- `setListener` of `NRtClient`, and its callbacks to the transport; the state is `_listener`. -/
def directStep (parse : Parse) (listener : Option L) :
    Input L → Option L × Except StdError (Notified L)
  | .setListener listener => (listener, .ok [])
  | .setUserData => (listener, .ok [])
  | .transport isConnected direct _ event =>
    let client : NRtClient := { listener := listener.isSome, reqContexts := direct }
    (listener, (fire client isConnected parse event).map fun events =>
      listener.toList.flatMap fun l => events.map fun e => (l, e))

/-! ## A listener set on the wrapper -/

/-- The field of an `NRtClientWrapper` that its static event handlers read. -/
structure NRtClientWrapper (L : Type) where
  listener : Option L := none

/-- `getWrapper`: what `NRtClient_getUserData` leads to, if it is a wrapper. -/
abbrev UserData (L : Type) := Option (NRtClientWrapper L)

/-- A function that gets an `α` and then looks for the wrapper. -/
abbrev Callback (L α : Type) := α → UserData L → Option (Notified L)

/-- What the static event handlers share: with a listener, read the C structure and call. -/
def notify (userData : UserData L) (event : Option ListenerEvent) : Option (Notified L) :=
  match userData with
  | none => none
  | some wrapper =>
    match wrapper.listener with
    | none => some []
    | some l => event.map fun e => [(l, e)]

namespace NRtClientWrapper

def connectCallback : Callback L Unit := fun _ userData => notify userData (some .onConnect)

def disconnectCallback : Callback L SNRtClientDisconnectInfo := fun cInfo userData =>
  notify userData (some (.onDisconnect (assignNRtClientDisconnectInfo cInfo)))

def errorCallback : Callback L SNRtError := fun cError userData =>
  notify userData ((assignNRtError cError).map .onError)

def channelMessageCallback : Callback L SNChannelMessage := fun cMessage userData =>
  notify userData (some (.onChannelMessage (.assign cMessage)))

def channelPresenceCallback : Callback L SNChannelPresenceEvent := fun cPresence userData =>
  notify userData (some (.onChannelPresence (.assign cPresence)))

def matchmakerMatchedCallback : Callback L SNMatchmakerMatched := fun cMatched userData =>
  notify userData ((NMatchmakerMatched.assign cMatched).map .onMatchmakerMatched)

def matchDataCallback : Callback L SNMatchData := fun cMatchData userData =>
  notify userData (some (.onMatchData (.assign cMatchData)))

def matchPresenceCallback : Callback L SNMatchPresenceEvent := fun cMatchPresence userData =>
  notify userData (some (.onMatchPresence (.assign cMatchPresence)))

def notificationsCallback : Callback L SNNotificationList := fun cNotifications userData =>
  notify userData (some (.onNotifications (.assign cNotifications)))

def statusPresenceCallback : Callback L SNStatusPresenceEvent := fun cPresence userData =>
  notify userData (some (.onStatusPresence (.assign cPresence)))

def streamPresenceCallback : Callback L SNStreamPresenceEvent := fun cPresence userData =>
  notify userData (some (.onStreamPresence (.assign cPresence)))

def streamDataCallback : Callback L SNStreamData := fun cData userData =>
  notify userData (some (.onStreamData (.assign cData)))

end NRtClientWrapper

/-- `NRtDefaultClientListener`: the callbacks that are set. -/
structure NRtDefaultClientListener (L : Type) where
  connectCallback : Option (Callback L Unit) := none
  disconnectCallback : Option (Callback L NRtClientDisconnectInfo) := none
  errorCallback : Option (Callback L NRtError) := none
  channelMessageCallback : Option (Callback L NChannelMessage) := none
  channelPresenceCallback : Option (Callback L NChannelPresenceEvent) := none
  matchmakerMatchedCallback : Option (Callback L NMatchmakerMatched) := none
  matchDataCallback : Option (Callback L NMatchData) := none
  matchPresenceCallback : Option (Callback L NMatchPresenceEvent) := none
  notificationsCallback : Option (Callback L NNotificationList) := none
  statusPresenceCallback : Option (Callback L NStatusPresenceEvent) := none
  streamPresenceCallback : Option (Callback L NStreamPresenceEvent) := none
  streamDataCallback : Option (Callback L NStreamData) := none

/-- `if (callback) callback(a)`. -/
def runCallback {α : Type} (callback : Option (Callback L α)) : Callback L α :=
  match callback with
  | none => fun _ _ => some []
  | some callback => callback

namespace NRtDefaultClientListener

/-- The method of the default listener. -/
def call (d : NRtDefaultClientListener L) : ListenerEvent → UserData L → Option (Notified L)
  | .onConnect => runCallback d.connectCallback ()
  | .onDisconnect info => runCallback d.disconnectCallback info
  | .onError error => runCallback d.errorCallback error
  | .onChannelMessage message => runCallback d.channelMessageCallback message
  | .onChannelPresence presence => runCallback d.channelPresenceCallback presence
  | .onMatchmakerMatched matched => runCallback d.matchmakerMatchedCallback matched
  | .onMatchData matchData => runCallback d.matchDataCallback matchData
  | .onMatchPresence matchPresence => runCallback d.matchPresenceCallback matchPresence
  | .onNotifications notifications => runCallback d.notificationsCallback notifications
  | .onStatusPresence presence => runCallback d.statusPresenceCallback presence
  | .onStreamPresence presence => runCallback d.streamPresenceCallback presence
  | .onStreamData data => runCallback d.streamDataCallback data

end NRtDefaultClientListener

/-- What the setters of NRtClientC.cpp make of a C callback: a closure that fills the C structure
and calls it, or null. -/
def closure {α γ : Type} (assign : α → γ) (callback : Option (Callback L γ)) :
    Option (Callback L α) :=
  callback.map fun callback a => callback (assign a)

/-! The functions `NRtClient_set...Callback`, on the default listener of the client. -/

namespace RtClientC

def setConnectCallback (d : NRtDefaultClientListener L)
    (callback : Option (Callback L Unit)) : NRtDefaultClientListener L :=
  { d with connectCallback := closure id callback }

def setDisconnectCallback (d : NRtDefaultClientListener L)
    (callback : Option (Callback L SNRtClientDisconnectInfo)) : NRtDefaultClientListener L :=
  { d with disconnectCallback := closure SNRtClientDisconnectInfo.assign callback }

def setErrorCallback (d : NRtDefaultClientListener L)
    (callback : Option (Callback L SNRtError)) : NRtDefaultClientListener L :=
  { d with errorCallback := closure SNRtError.assign callback }

def setChannelMessageCallback (d : NRtDefaultClientListener L)
    (callback : Option (Callback L SNChannelMessage)) : NRtDefaultClientListener L :=
  { d with channelMessageCallback := closure SNChannelMessage.assign callback }

def setChannelPresenceCallback (d : NRtDefaultClientListener L)
    (callback : Option (Callback L SNChannelPresenceEvent)) : NRtDefaultClientListener L :=
  { d with channelPresenceCallback := closure SNChannelPresenceEvent.assign callback }

def setMatchmakerMatchedCallback (d : NRtDefaultClientListener L)
    (callback : Option (Callback L SNMatchmakerMatched)) : NRtDefaultClientListener L :=
  { d with matchmakerMatchedCallback := closure SNMatchmakerMatched.assign callback }

def setMatchDataCallback (d : NRtDefaultClientListener L)
    (callback : Option (Callback L SNMatchData)) : NRtDefaultClientListener L :=
  { d with matchDataCallback := closure SNMatchData.assign callback }

def setMatchPresenceCallback (d : NRtDefaultClientListener L)
    (callback : Option (Callback L SNMatchPresenceEvent)) : NRtDefaultClientListener L :=
  { d with matchPresenceCallback := closure SNMatchPresenceEvent.assign callback }

def setNotificationsCallback (d : NRtDefaultClientListener L)
    (callback : Option (Callback L SNNotificationList)) : NRtDefaultClientListener L :=
  { d with notificationsCallback := closure SNNotificationList.assign callback }

def setStatusPresenceCallback (d : NRtDefaultClientListener L)
    (callback : Option (Callback L SNStatusPresenceEvent)) : NRtDefaultClientListener L :=
  { d with statusPresenceCallback := closure SNStatusPresenceEvent.assign callback }

def setStreamPresenceCallback (d : NRtDefaultClientListener L)
    (callback : Option (Callback L SNStreamPresenceEvent)) : NRtDefaultClientListener L :=
  { d with streamPresenceCallback := closure SNStreamPresenceEvent.assign callback }

def setStreamDataCallback (d : NRtDefaultClientListener L)
    (callback : Option (Callback L SNStreamData)) : NRtDefaultClientListener L :=
  { d with streamDataCallback := closure SNStreamData.assign callback }

end RtClientC

/-- The wrapped client's default listener, the wrapper, and whether the user data of the client
is still what the wrapper's constructor set. -/
structure Wrapped (L : Type) where
  defaultListener : NRtDefaultClientListener L := {}
  wrapper : NRtClientWrapper L := {}
  userDataKept : Bool := true

namespace Wrapped

def userData (w : Wrapped L) : UserData L := if w.userDataKept then some w.wrapper else none

open RtClientC NRtClientWrapper in
/-- `setListener` of the wrapper. -/
def setListener (w : Wrapped L) (listener : Option L) : Wrapped L :=
  let d := w.defaultListener
  let d := setConnectCallback d (some connectCallback)
  let d := setDisconnectCallback d (some disconnectCallback)
  let d := setErrorCallback d (some errorCallback)
  let d := setChannelMessageCallback d (some channelMessageCallback)
  let d := setChannelPresenceCallback d (some channelPresenceCallback)
  let d := setMatchmakerMatchedCallback d (some matchmakerMatchedCallback)
  let d := setMatchDataCallback d (some matchDataCallback)
  let d := setMatchPresenceCallback d (some matchPresenceCallback)
  let d := setNotificationsCallback d (some notificationsCallback)
  let d := setStatusPresenceCallback d (some statusPresenceCallback)
  let d := setStreamPresenceCallback d (some streamPresenceCallback)
  let d := setStreamDataCallback d (some streamDataCallback)
  { w with wrapper := { listener }, defaultListener := d }

/-- The methods of the default listener, called one after the other. -/
def notifyAll (w : Wrapped L) (events : List ListenerEvent) : Option (Notified L) :=
  (events.mapM fun e => w.defaultListener.call e w.userData).map List.flatten

/-- `setListener` and `setUserData` of the wrapper, and the callbacks of the wrapped client to the
transport; `none` is a call through user data that is no wrapper. -/
def step (parse : Parse) (w : Wrapped L) :
    Input L → Wrapped L × Option (Except StdError (Notified L))
  | .setListener listener => (w.setListener listener, some (.ok []))
  | .setUserData => ({ w with userDataKept := false }, some (.ok []))
  | .transport isConnected _ wrapped event =>
    let client : NRtClient := { listener := true, reqContexts := wrapped }
    (w, match fire client isConnected parse event with
      | .error e => some (.error e)
      | .ok events => (w.notifyAll events).map .ok)

end Wrapped

/-! ## Portable events -/

namespace ListenerEvent

/-- No text has a NUL, and no list or map has more than 65535 elements. -/
def Portable : ListenerEvent → Prop
  | .onConnect => True
  | .onDisconnect info => NulFree info.reason
  | .onError error => PortableNRtError error
  | .onChannelMessage message => message.Portable
  | .onChannelPresence presence => presence.Portable
  | .onMatchmakerMatched matched => matched.Portable
  | .onMatchData matchData => matchData.Portable
  | .onMatchPresence matchPresence => matchPresence.Portable
  | .onNotifications notifications => notifications.Portable
  | .onStatusPresence presence => presence.Portable
  | .onStreamPresence presence => presence.Portable
  | .onStreamData data => data.Portable

/-- Match data whose size fits 32 bits. -/
def Sized : ListenerEvent → Prop
  | .onMatchData matchData => matchData.data.size < 2 ^ 32
  | _ => True

end ListenerEvent

/-- A frame that `parse` takes gives no more than 2 GiB of match data: protobuf has no longer
messages. -/
def Bounded (parse : Parse) : Prop :=
  ∀ data msg, parse data = some msg → msg.payload.matchData.data.size < 2 ^ 31

/-- What the event brings is portable: the texts of the transport, and of a frame the cid, the
error and what the listener is to get. -/
def TransportEvent.Portable (parse : Parse) : TransportEvent → Prop
  | .connected => True
  | .disconnected info => NulFree info.reason
  | .error description => NulFree description
  | .message data => ∀ msg, parse data = some msg →
    NulFree msg.cid ∧ (msg.hasError = true → PortableNRtError msg.error) ∧
    ∀ call, NRtClient.pushCall msg = some call →
      ∀ e, ListenerEvent.ofCall (.listener call) = some e → e.Portable

/-- The event is not the answer to a request that is in `pending`. -/
def TransportEvent.Unsolicited (parse : Parse) (pending : ReqTable) : TransportEvent → Prop
  | .message data => ∀ msg cid, parse data = some msg → msg.cid ≠ "" → stoi msg.cid = .ok cid →
    pending[cid]? = none
  | _ => True

def Input.Admissible (parse : Parse) : Input L → Prop
  | .setListener _ => True
  | .setUserData => False
  | .transport _ direct wrapped event =>
    event.Portable parse ∧ event.Unsolicited parse direct ∧ event.Unsolicited parse wrapped

/-! ## The client: events do not depend on who listens -/

section
variable {parse : Parse} {c : NRtClient} {isConnected : Bool}

/-- A client with a listener and no pending request. -/
def listening : NRtClient := { listener := true }

/-- The same calls, if somebody listens. -/
def heard (listener : Bool) (d : Dispatch RtPayload) : Dispatch RtPayload :=
  { d with calls := if listener then d.calls else [] }

theorem onTransportError_eq (description : String) :
    c.onTransportError isConnected description =
      heard c.listener (listening.onTransportError isConnected description) := by
  unfold NRtClient.onTransportError heard
  cases c.listener <;> rfl

theorem dispatchPush_eq (msg : Envelope RtPayload) :
    c.dispatchPush isConnected msg = heard c.listener (listening.dispatchPush isConnected msg) := by
  unfold NRtClient.dispatchPush
  have htrue : listening.listener = true := rfl
  rw [htrue]
  by_cases herror : msg.hasError = true
  · simp only [herror, if_true]
    cases c.listener <;> rfl
  · simp only [herror, if_true, if_false, Bool.false_eq_true]
    cases NRtClient.pushCall msg with
    | some call => cases c.listener <;> rfl
    | none =>
      simp only
      rw [onTransportError_eq]
      cases c.listener <;> rfl

theorem dispatchMessage_of_unsolicited {parsed : Option (Envelope RtPayload)}
    (h : ∀ msg cid, parsed = some msg → msg.cid ≠ "" → stoi msg.cid = .ok cid →
      c.reqContexts[cid]? = none) :
    c.dispatchMessage isConnected parsed =
      (listening.dispatchMessage isConnected parsed).map (heard c.listener) := by
  unfold NRtClient.dispatchMessage
  cases parsed with
  | none => exact congrArg Except.ok (onTransportError_eq _)
  | some msg =>
    by_cases hcid : msg.cid = ""
    · simp only [hcid, if_true]
      exact congrArg Except.ok (dispatchPush_eq msg)
    · simp only [hcid, if_false]
      cases hstoi : stoi msg.cid with
      | error e => rfl
      | ok cid =>
        have hnone := h msg cid rfl hcid hstoi
        have hlistening : listening.reqContexts[cid]? = none := Std.ExtTreeMap.getElem?_empty
        simp only [bind, Except.bind, pure, Except.pure, Except.map, hnone, hlistening]
        exact congrArg Except.ok (onTransportError_eq _)

/-- What a listener gets of an event that answers no request. -/
def events (isConnected : Bool) (parse : Parse) (event : TransportEvent) :
    Except StdError (List ListenerEvent) :=
  fire listening isConnected parse event

theorem heard_calls (listener : Bool) (d : Dispatch RtPayload) :
    (heard listener d).calls.filterMap ListenerEvent.ofCall =
      if listener then d.calls.filterMap ListenerEvent.ofCall else [] := by
  cases listener <;> rfl

theorem fire_of_unsolicited {event : TransportEvent} (h : event.Unsolicited parse c.reqContexts) :
    fire c isConnected parse event =
      (events isConnected parse event).map fun es => if c.listener then es else [] := by
  cases event with
  | connected => cases hl : c.listener <;> simp [fire, events, listening, Except.map, hl]
  | disconnected info => cases hl : c.listener <;> simp [fire, events, listening, Except.map, hl]
  | error description =>
    simp only [fire, events]
    rw [onTransportError_eq, heard_calls]
    rfl
  | message data =>
    simp only [fire, events, NRtClient.onTransportMessage]
    rw [dispatchMessage_of_unsolicited (c := c) fun msg cid => h msg cid]
    cases listening.dispatchMessage isConnected (parse data) with
    | error e => rfl
    | ok d => exact congrArg Except.ok (heard_calls _ d)

/-! ## What a listener gets is portable -/

theorem portable_empty : PortableStringMap ∅ := ⟨by decide, by decide⟩

theorem portable_error {code : RtErrorCode} {description : String} (h : NulFree description) :
    (ListenerEvent.onError ⟨code, description, ∅⟩).Portable ∧
      (ListenerEvent.onError ⟨code, description, ∅⟩).Sized :=
  ⟨⟨h, portable_empty⟩, trivial⟩

theorem portable_onTransportError {description : String} (h : NulFree description) :
    ∀ e ∈ (listening.onTransportError isConnected description).calls.filterMap ListenerEvent.ofCall,
      e.Portable ∧ e.Sized := by
  intro e he
  rw [List.mem_singleton.1 he]
  exact portable_error h

theorem nulFree_append {s t : String} (hs : NulFree s) (ht : NulFree t) : NulFree (s ++ t) := by
  unfold NulFree
  rw [String.toList_append, List.mem_append]
  exact not_or_intro hs ht

theorem sized_ofCall (hb : Bounded parse) {data : NBytes} {msg : Envelope RtPayload}
    (hmsg : parse data = some msg) {call : ListenerCall RtPayload}
    (hcall : NRtClient.pushCall msg = some call) {e : ListenerEvent}
    (he : ListenerEvent.ofCall (.listener call) = some e) : e.Sized := by
  have hsize : msg.payload.matchData.data.size < 2 ^ 32 :=
    lt_trans (hb data msg hmsg) (by norm_num)
  unfold NRtClient.pushCall at hcall
  split at hcall
  all_goals cases hcall
  all_goals cases he
  all_goals first | exact hsize | exact trivial

theorem portable_dispatchPush (hb : Bounded parse) {data : NBytes} {msg : Envelope RtPayload}
    (hmsg : parse data = some msg) (herror : msg.hasError = true → PortableNRtError msg.error)
    (hcall : ∀ call, NRtClient.pushCall msg = some call →
      ∀ e, ListenerEvent.ofCall (.listener call) = some e → e.Portable) :
    ∀ e ∈ (listening.dispatchPush isConnected msg).calls.filterMap ListenerEvent.ofCall,
      e.Portable ∧ e.Sized := by
  unfold NRtClient.dispatchPush
  have htrue : listening.listener = true := rfl
  by_cases he : msg.hasError = true
  · simp only [htrue, he, if_true]
    intro e hmem
    rw [List.mem_singleton.1 hmem]
    exact ⟨herror he, trivial⟩
  · simp only [htrue, he, if_true, if_false, Bool.false_eq_true]
    cases hpush : NRtClient.pushCall msg with
    | none => exact portable_onTransportError (by decide)
    | some call =>
      intro e hmem
      obtain ⟨call', hcall', hof⟩ := List.mem_filterMap.1 hmem
      rw [List.mem_singleton.1 hcall'] at hof
      exact ⟨hcall call hpush e hof, sized_ofCall hb hmsg hpush hof⟩

theorem portable_message (hb : Bounded parse) {data : NBytes}
    (hp : (TransportEvent.message data).Portable parse) {es : List ListenerEvent}
    (h : events isConnected parse (.message data) = .ok es) :
    ∀ e ∈ es, e.Portable ∧ e.Sized := by
  simp only [events, fire, NRtClient.onTransportMessage, NRtClient.dispatchMessage] at h
  cases hparse : parse data with
  | none =>
    rw [hparse] at h
    cases h
    exact portable_onTransportError (by decide)
  | some msg =>
    obtain ⟨hcid, herror, hcall⟩ := hp msg hparse
    rw [hparse] at h
    by_cases hpush : msg.cid = ""
    · simp only [hpush, if_true] at h
      cases h
      exact portable_dispatchPush hb hparse herror hcall
    · simp only [hpush, if_false] at h
      cases hstoi : stoi msg.cid with
      | error e =>
        rw [hstoi] at h
        cases h
      | ok cid =>
        rw [hstoi] at h
        have hlistening : listening.reqContexts[cid]? = none := Std.ExtTreeMap.getElem?_empty
        simp only [bind, Except.bind, pure, Except.pure, hlistening] at h
        cases h
        exact portable_onTransportError (nulFree_append (by decide) hcid)

theorem portable_events (hb : Bounded parse) {event : TransportEvent} (hp : event.Portable parse)
    {es : List ListenerEvent} (h : events isConnected parse event = .ok es) :
    ∀ e ∈ es, e.Portable ∧ e.Sized := by
  cases event with
  | connected =>
    cases h
    exact List.forall_mem_singleton.2 ⟨trivial, trivial⟩
  | disconnected info =>
    cases h
    exact List.forall_mem_singleton.2 ⟨hp, trivial⟩
  | error description =>
    cases h
    exact portable_onTransportError hp
  | message data => exact portable_message hb hp h

end

/-! ## The wrapper -/

theorem notify_some (listener : Option L) (e : ListenerEvent) :
    notify (some { listener }) (some e) = some (listener.toList.map fun l => (l, e)) := by
  cases listener <;> rfl

/-- The default listener after `setListener`. -/
def registered : NRtDefaultClientListener L := (Wrapped.setListener {} none).defaultListener

theorem call_registered {e : ListenerEvent} (hp : e.Portable) (hs : e.Sized) (listener : Option L) :
    registered.call e (some { listener }) = some (listener.toList.map fun l => (l, e)) := by
  cases e with
  | onConnect => exact notify_some listener _
  | onDisconnect info =>
    show notify (some { listener })
      (some (.onDisconnect (assignNRtClientDisconnectInfo (.assign info)))) = _
    rw [assignNRtClientDisconnectInfo_assign hp, notify_some]
  | onError error =>
    show notify (some { listener }) ((assignNRtError (.assign error)).map .onError) = _
    rw [assignNRtError_assign hp, Option.map_some, notify_some]
  | onChannelMessage message =>
    show notify (some { listener }) (some (.onChannelMessage (.assign (.assign message)))) = _
    rw [NChannelMessage.assign_assign hp, notify_some]
  | onChannelPresence presence =>
    show notify (some { listener }) (some (.onChannelPresence (.assign (.assign presence)))) = _
    rw [NChannelPresenceEvent.assign_assign hp, notify_some]
  | onMatchmakerMatched matched =>
    show notify (some { listener })
      ((NMatchmakerMatched.assign (.assign matched)).map .onMatchmakerMatched) = _
    rw [NMatchmakerMatched.assign_assign hp, Option.map_some, notify_some]
  | onMatchData matchData =>
    show notify (some { listener }) (some (.onMatchData (.assign (.assign matchData)))) = _
    rw [(NMatchData.assign_assign_iff hp).2 hs, notify_some]
  | onMatchPresence matchPresence =>
    show notify (some { listener }) (some (.onMatchPresence (.assign (.assign matchPresence)))) = _
    rw [NMatchPresenceEvent.assign_assign hp, notify_some]
  | onNotifications notifications =>
    show notify (some { listener }) (some (.onNotifications (.assign (.assign notifications)))) = _
    rw [NNotificationList.assign_assign hp, notify_some]
  | onStatusPresence presence =>
    show notify (some { listener }) (some (.onStatusPresence (.assign (.assign presence)))) = _
    rw [NStatusPresenceEvent.assign_assign hp, notify_some]
  | onStreamPresence presence =>
    show notify (some { listener }) (some (.onStreamPresence (.assign (.assign presence)))) = _
    rw [NStreamPresenceEvent.assign_assign hp, notify_some]
  | onStreamData data =>
    show notify (some { listener }) (some (.onStreamData (.assign (.assign data)))) = _
    rw [NStreamData.assign_assign hp, notify_some]

/-- The wrapper has the listener, and its callbacks are set, unless there has been none. -/
structure Linked (listener : Option L) (w : Wrapped L) : Prop where
  listener_eq : w.wrapper.listener = listener
  userDataKept : w.userDataKept = true
  callbacks : w.defaultListener = registered ∨ w.defaultListener = {} ∧ listener = none

theorem Linked.call {listener : Option L} {w : Wrapped L} (h : Linked listener w) {e : ListenerEvent}
    (hp : e.Portable) (hs : e.Sized) :
    w.defaultListener.call e w.userData = some (listener.toList.map fun l => (l, e)) := by
  have huser : w.userData = some { listener } := by
    rw [Wrapped.userData, h.userDataKept, if_pos rfl, ← h.listener_eq]
  rw [huser]
  rcases h.callbacks with hd | ⟨hd, hnone⟩
  · rw [hd]
    exact call_registered hp hs listener
  · rw [hd, hnone]
    cases e <;> rfl

theorem Linked.mapM_call {listener : Option L} {w : Wrapped L} (h : Linked listener w)
    {es : List ListenerEvent} (hes : ∀ e ∈ es, e.Portable ∧ e.Sized) :
    es.mapM (fun e => w.defaultListener.call e w.userData) =
      some (es.map fun e => listener.toList.map fun l => (l, e)) := by
  induction es with
  | nil => rfl
  | cons e es ih =>
    obtain ⟨he, hrest⟩ := List.forall_mem_cons.1 hes
    rw [List.mapM_cons, h.call he.1 he.2, ih hrest]
    rfl

theorem Linked.notifyAll {listener : Option L} {w : Wrapped L} (h : Linked listener w)
    {es : List ListenerEvent} (hes : ∀ e ∈ es, e.Portable ∧ e.Sized) :
    w.notifyAll es = some (listener.toList.flatMap fun l => es.map fun e => (l, e)) := by
  rw [Wrapped.notifyAll, h.mapM_call hes, Option.map_some, ← List.flatMap_def]
  cases listener with
  | none => simp
  | some l => simp [List.map_eq_flatMap]

theorem linked_init : Linked (none : Option L) {} := ⟨rfl, rfl, .inr ⟨rfl, rfl⟩⟩

theorem linked_setListener {listener : Option L} {w : Wrapped L} (h : Linked listener w)
    (listener' : Option L) : Linked listener' (w.setListener listener') :=
  ⟨rfl, h.userDataKept, .inl rfl⟩

/-- One input: the wrapper goes along with the client that is used directly. -/
theorem wrapped_simulates {parse : Parse} (hb : Bounded parse) :
    Simulates (directStep parse) (Wrapped.step parse) (Linked (L := L)) some
      (Input.Admissible parse) := by
  intro listener w input hlinked hok
  cases input with
  | setListener listener' => exact ⟨linked_setListener hlinked listener', rfl⟩
  | setUserData => exact hok.elim
  | transport isConnected direct wrapped event =>
    obtain ⟨hp, hdirect, hwrapped⟩ := hok
    refine ⟨hlinked, ?_⟩
    simp only [directStep, Wrapped.step]
    rw [fire_of_unsolicited (c := { listener := listener.isSome, reqContexts := direct }) hdirect,
      fire_of_unsolicited (c := { listener := true, reqContexts := wrapped }) hwrapped]
    cases hevents : events isConnected parse event with
    | error e => rfl
    | ok es =>
      simp only [Except.map, if_true]
      rw [hlinked.notifyAll (portable_events hb hp hevents)]
      cases listener <;> rfl

/-- **Routing.**  Whatever happens, and whatever listeners are set meanwhile, the wrapper's listener
is called as a listener of the client would be. -/
theorem routed_identically {parse : Parse} (hb : Bounded parse) {inputs : List (Input L)}
    (hok : ∀ input ∈ inputs, input.Admissible parse) :
    outputs (Wrapped.step parse) {} inputs =
      (outputs (directStep parse) none inputs).map some :=
  outputs_of_simulation (wrapped_simulates hb) hok linked_init

def someFrame : NBytes := "\x7b\"match_presence_event\":\x7b\"match_id\":\"match\"\x7d\x7d".toUTF8

def someEvent : NMatchPresenceEvent := ⟨"match", [], []⟩

/-- Of JSON texts, `someFrame` alone. -/
def someParse : Parse := fun data =>
  if data = someFrame then
    some { messageCase := .matchPresenceEvent
           payload := { (default : RtPayload) with matchPresenceEvent := someEvent } }
  else none

def somePending : ReqTable := (∅ : ReqTable).insert 0 ⟨0, true, true⟩

/-- A listener is set, the transport connects, and a frame arrives while a request is pending. -/
def someInputs : List (Input Nat) :=
  [.setListener (some 7), .transport true ∅ ∅ .connected,
    .transport true somePending ∅ (.message someFrame)]

theorem routed_identically_matchPresence :
    outputs (Wrapped.step someParse) {} someInputs =
      [some (.ok []), some (.ok [(7, .onConnect)]), some (.ok [(7, .onMatchPresence someEvent)])] := by
  have hb : Bounded someParse := by
    intro data msg h
    unfold someParse at h
    split at h
    · cases h
      decide
    · cases h
  have hframe : (TransportEvent.message someFrame).Portable someParse := by
    intro msg h
    cases h
    have hempty : EachCounted NUserPresence.Portable [] := ⟨by decide, List.forall_mem_nil _⟩
    refine ⟨by decide, fun h => ?_, fun call hcall e he => ?_⟩
    · cases h
    · cases hcall
      cases he
      exact ⟨by decide, hempty, hempty⟩
  have hnew : ∀ pending, (TransportEvent.message someFrame).Unsolicited someParse pending := by
    intro pending msg cid h hcid
    cases h
    exact absurd rfl hcid
  have hok : ∀ input ∈ someInputs, input.Admissible someParse := by
    simp only [someInputs, List.forall_mem_cons]
    exact ⟨trivial, ⟨trivial, trivial, trivial⟩, ⟨hframe, hnew _, hnew _⟩, List.forall_mem_nil _⟩
  rw [routed_identically hb hok]
  rfl

end NakamaCpp.CApi
