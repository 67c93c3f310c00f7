import NakamaCpp.Lib.Transition
import NakamaCpp.Realtime.RtClient

/-!
# The websocket transport

Model of src/realtime/NWebsocketCppRest.cpp with the threads around it: the user
thread, which calls `connect`, `disconnect`, `send` and `tick` (also from inside
the handlers that `tick` runs), the service thread of each websocket, and the
thread pool on which the continuations of tasks run.

A websocket is named by its number, an event by its position among all events
ever queued.  `_mutex` is held across steps only by `tick`; the other threads
take it, queue one event and let go of it in one step.  A call of the user is its
first part and the list `code` of what is left of it, because destroying a
websocket waits for its service thread and queueing an event needs the lock.
-/

namespace NakamaCpp.Realtime

/-! ## Data -/

inductive NRtTransportType
  | binary
  | text
deriving DecidableEq, Repr

structure NRtClientDisconnectInfo where
  code : UInt16
  reason : String
  remote : Bool
deriving DecidableEq, Repr

/-- A closure in `_userThreadFuncs`, with the websocket it comes from. -/
inductive SocketEvent
  /-- `fireOnConnected` -/
  | opened (ws : Nat)
  /-- `fireOnDisconnected` -/
  | closed (ws : Nat) (info : NRtClientDisconnectInfo)
  /-- `fireOnMessage` -/
  | message (ws : Nat) (payload : NBytes)
  /-- `fireOnError` -/
  | error (description : String)
  | ping
  | pong

/-- `websocket_message_type` -/
inductive MessageType
  | textMessage
  | binaryMessage
  | close
  | ping
  | pong
deriving DecidableEq, Repr

/-- `websocket_incoming_message`; reading the body gives bytes or throws. -/
structure IncomingMessage where
  messageType : MessageType
  body : Except String NBytes

/-- The members of `NWebsocketCppRest` and of `NRtTransportInterface`. -/
structure NWebsocketCppRest where
  wsClient : Option Nat := none
  type : NRtTransportType := .binary
  disconnectInitiated : Bool := false
  userThreadFuncs : List (Nat × SocketEvent) := []
  activityTimeoutMs : UInt32 := 0
  lastReceivedMessageTimeMs : UInt64 := 0
  connected : Bool := false

namespace NWebsocketCppRest

/-- `onSocketMessage`: the event it queues. -/
def onSocketMessage (ws : Nat) (msg : IncomingMessage) : Option SocketEvent :=
  let exception (what : String) : SocketEvent :=
    .error ("[NWebsocketCppRest::onSocketMessage] exception: " ++ what)
  match msg.messageType with
  | .binaryMessage =>
    match msg.body with
    | .ok payload => if 0 < payload.size then some (.message ws payload) else none
    | .error what => some (exception what)
  | .textMessage =>
    match msg.body with
    | .ok payload => some (.message ws payload)
    | .error what => some (exception what)
  | .ping => some .ping
  | .pong => some .pong
  | .close => none

/-- `onClosed`: the event it queues. -/
def onClosed (t : NWebsocketCppRest) (ws : Nat) (code : UInt16) (reason : String) : SocketEvent :=
  .closed ws ⟨code, reason, !t.disconnectInitiated⟩

/-- The test for inactivity in `tick`. -/
def inactive (t : NWebsocketCppRest) (now : UInt64) : Bool :=
  t.connected && decide (0 < t.activityTimeoutMs) &&
    decide (t.activityTimeoutMs.toUInt64 ≤ now - t.lastReceivedMessageTimeMs)

end NWebsocketCppRest

/-! ## The threads -/

/-- The service thread of a websocket: not started, between two events, inside a
handler that is about to queue an event, or gone.  The close handler is its last. -/
inductive Service
  | created
  | running
  | handling (event : SocketEvent) (last : Bool)
  | done

/-- Destroying the websocket does not wait. -/
def Service.quiet : Service → Bool
  | .created => true
  | .done => true
  | _ => false

/-- What is left of a call on the user thread. -/
inductive Micro
  /-- `executeInUserThread` -/
  | queue (event : SocketEvent)
  /-- `~WsClient` -/
  | destroy (ws : Nat)
  /-- `_type = type; _disconnectInitiated = false` -/
  | setup (type : NRtTransportType)
  /-- `_wsClient->connect(uri)` -/
  | start (ws : Nat)
  /-- the lock guard of `tick` -/
  | lock

structure WsState where
  t : NWebsocketCppRest := {}
  /-- `tick` holds `_mutex` -/
  locked : Bool := false
  /-- `tick` is running the front of the queue -/
  handler : Bool := false
  code : List Micro := []
  /-- the user thread is in the destructor of this websocket -/
  waits : Option Nat := none
  /-- the user thread has tried to lock `_mutex` while holding it -/
  selfLock : Bool := false
  service : Nat → Service := fun _ => .created
  /-- websockets created so far -/
  created : Nat := 0
  /-- websockets whose `connect` task has not finished -/
  connecting : List Nat := []
  /-- continuations about to queue their event -/
  pool : List SocketEvent := []
  /-- events queued so far -/
  queued : Nat := 0
  /-- events started, in order -/
  started : List Nat := []
  /-- the websocket whose open event set `_connected` -/
  setBy : Option Nat := none
  /-- websockets whose close event has been run since then -/
  closedSince : List Nat := []
  /-- `send` has called through a null `_wsClient` -/
  nullDeref : Bool := false
  /-- an event of another websocket than the current one has changed `_connected` -/
  crossed : Bool := false

/-- How far `connect` gets before something throws. -/
inductive ConnectOutcome
  | clientThrows (what : String)
  | uriThrows (what : String)
  | started
deriving DecidableEq, Repr

inductive WsAction
  /-- calls of the user -/
  | connect (type : NRtTransportType) (outcome : ConnectOutcome)
  | disconnect
  | send (built sent : Except String Unit)
  | setActivityTimeout (ms : UInt32)
  /-- the next part of such a call, and the end of a wait in it -/
  | run
  | joined
  /-- `tick`: the inactivity check, the start and the end of a handler, the end -/
  | tickBegin (now : UInt64)
  | startEvent
  | handlerReturns
  | handlerThrows
  | tickEnd
  /-- the service thread of a websocket: its handlers, and the lock they take -/
  | serviceMessage (ws : Nat) (msg : IncomingMessage) (now : UInt64)
  | serviceClose (ws : Nat) (code : UInt16) (reason : String)
  | serviceQueues (ws : Nat)
  /-- the thread pool: the continuation of `connect`, failed tasks, and the lock -/
  | connectDone (ws : Nat) (result : Except String Unit) (now : UInt64)
  | taskFails (description : String)
  | poolQueues (i : Nat)

namespace WsState

/-- `_userThreadFuncs.push_back`, under the lock. -/
def push (s : WsState) (event : SocketEvent) : WsState :=
  { s with
    t := { s.t with userThreadFuncs := s.t.userThreadFuncs ++ [(s.queued, event)] }
    queued := s.queued + 1 }

/-- The user thread runs code of the user: outside `tick`, or in a handler. -/
def userCode (s : WsState) : Bool :=
  s.code.isEmpty && s.waits.isNone && !s.selfLock && (!s.locked || s.handler)

def setService (s : WsState) (ws : Nat) (v : Service) : WsState :=
  { s with service := fun w => if w = ws then v else s.service w }

/-- `connect`. -/
def connect (s : WsState) (type : NRtTransportType) : ConnectOutcome → WsState
  | .clientThrows what => { s with code := [.queue (.error ("connect failed: " ++ what))] }
  | .uriThrows what =>
    { s with
      t := { s.t with wsClient := some s.created }
      created := s.created + 1
      code := s.t.wsClient.toList.map Micro.destroy ++
        [.setup type, .queue (.error ("connect failed: " ++ what))] }
  | .started =>
    { s with
      t := { s.t with wsClient := some s.created }
      created := s.created + 1
      code := s.t.wsClient.toList.map Micro.destroy ++ [.setup type, .start s.created] }

/-- `disconnect`. -/
def disconnect (s : WsState) : WsState :=
  match s.t.wsClient with
  | none => s
  | some ws =>
    { s with
      t := { s.t with wsClient := none, disconnectInitiated := true, connected := false }
      code := [.destroy ws] }

/-- `send`, where building the message or `_wsClient->send` may throw. -/
def send (s : WsState) (built sent : Except String Unit) : WsState :=
  let exception (what : String) : WsState :=
    { s with code := [.queue (.error ("[NWebsocketCppRest::send] exception: " ++ what))] }
  if s.t.connected then
    match built with
    | .error what => exception what
    | .ok () =>
      match s.t.wsClient, sent with
      | none, _ => { s with nullDeref := true }
      | some _, .error what => exception what
      | some _, .ok () => s
  else s

/-- The effect of an event on the status, before the user's callback. -/
def fire (s : WsState) : SocketEvent → WsState
  | .opened ws =>
    { s with
      t := { s.t with connected := true }
      setBy := if s.t.connected then s.setBy else some ws
      closedSince := if s.t.connected then s.closedSince else []
      crossed := s.crossed || (!s.t.connected && s.t.wsClient != some ws) }
  | .closed ws _ =>
    { s with
      t := { s.t with connected := false }
      closedSince := ws :: s.closedSince
      crossed := s.crossed || (s.t.connected && s.t.wsClient != some ws) }
  | _ => s

/-- The next part of the user's call. -/
def runCode (s : WsState) : Option WsState :=
  match s.code with
  | [] => none
  | .queue event :: code =>
    some (if s.locked then { s with selfLock := true } else { s with code }.push event)
  | .destroy ws :: code =>
    some (if (s.service ws).quiet then { s with code } else { s with code, waits := some ws })
  | .setup type :: code => some { s with code, t := { s.t with type, disconnectInitiated := false } }
  | .start ws :: code =>
    some ({ s with code, connecting := s.connecting ++ [ws] }.setService ws .running)
  | .lock :: code =>
    some (if s.locked then { s with selfLock := true } else { s with code, locked := true })

def step (s : WsState) : WsAction → Option WsState
  | .connect type outcome => if s.userCode then some (s.connect type outcome) else none
  | .disconnect => if s.userCode then some s.disconnect else none
  | .send built sent => if s.userCode then some (s.send built sent) else none
  | .setActivityTimeout ms =>
    if s.userCode then some { s with t := { s.t with activityTimeoutMs := ms } } else none
  | .run => if s.waits.isNone && !s.selfLock then s.runCode else none
  | .joined =>
    match s.waits with
    | some ws =>
      match s.service ws with
      | .done => some { s with waits := none }
      | _ => none
    | none => none
  | .tickBegin now =>
    if s.userCode then
      let s := if s.t.inactive now then s.disconnect else s
      some { s with code := s.code ++ [.lock] }
    else none
  | .startEvent =>
    match s.t.userThreadFuncs with
    | (i, event) :: _ =>
      if s.locked && !s.handler then
        some ({ s with handler := true, started := s.started ++ [i] }.fire event)
      else none
    | [] => none
  | .handlerReturns =>
    if s.handler && s.userCode then
      some { s with
        handler := false
        t := { s.t with userThreadFuncs := s.t.userThreadFuncs.tail } }
    else none
  | .handlerThrows =>
    if s.handler && s.userCode then
      some { s with handler := false, locked := false }
    else none
  | .tickEnd =>
    if s.locked && !s.handler && s.t.userThreadFuncs.isEmpty then
      some { s with locked := false }
    else none
  | .serviceMessage ws msg now =>
    match s.service ws with
    | .running =>
      let s := { s with t := { s.t with lastReceivedMessageTimeMs := now } }
      match NWebsocketCppRest.onSocketMessage ws msg with
      | some event => some (s.setService ws (.handling event false))
      | none => some s
    | _ => none
  | .serviceClose ws code reason =>
    match s.service ws with
    | .running => some (s.setService ws (.handling (s.t.onClosed ws code reason) true))
    | _ => none
  | .serviceQueues ws =>
    match s.service ws with
    | .handling event last =>
      if s.locked then none
      else some ((s.push event).setService ws (if last then .done else .running))
    | _ => none
  | .connectDone ws result now =>
    if ws ∈ s.connecting then
      let s := { s with connecting := s.connecting.erase ws }
      match result with
      | .ok () => some
        { s with
          t := { s.t with lastReceivedMessageTimeMs := now }
          pool := s.pool ++ [.opened ws] }
      | .error what => some { s with pool := s.pool ++ [.error ("connect failed: " ++ what)] }
    else none
  | .taskFails description => some { s with pool := s.pool ++ [.error description] }
  | .poolQueues i =>
    match s.pool[i]? with
    | some event =>
      if s.locked then none else some ({ s with pool := s.pool.eraseIdx i }.push event)
    | none => none

/-! ## What a step does -/

/-- Every way to take a step, with the guard that it has passed. -/
inductive Steps (s : WsState) : WsAction → WsState → Prop
  | connect (type : NRtTransportType) (outcome : ConnectOutcome) (hu : s.userCode = true) :
      Steps s (.connect type outcome) (s.connect type outcome)
  | disconnect (hu : s.userCode = true) : Steps s .disconnect s.disconnect
  | send (built sent : Except String Unit) (hu : s.userCode = true) :
      Steps s (.send built sent) (s.send built sent)
  | setActivityTimeout (ms : UInt32) (hu : s.userCode = true) :
      Steps s (.setActivityTimeout ms) { s with t := { s.t with activityTimeoutMs := ms } }
  | run (s' : WsState) (hw : s.waits = none) (h : s.runCode = some s') : Steps s .run s'
  | joined (ws : Nat) (hw : s.waits = some ws) (hdone : s.service ws = .done) :
      Steps s .joined { s with waits := none }
  | tickBegin (now : UInt64) (hu : s.userCode = true) :
      Steps s (.tickBegin now) { s with code := s.code ++ [.lock] }
  | tickInactive (now : UInt64) (hu : s.userCode = true) :
      Steps s (.tickBegin now) { s.disconnect with code := s.disconnect.code ++ [.lock] }
  | startEvent (i : Nat) (event : SocketEvent) (queue : List (Nat × SocketEvent))
      (hq : s.t.userThreadFuncs = (i, event) :: queue) (hl : s.locked = true)
      (hh : s.handler = false) :
      Steps s .startEvent ({ s with handler := true, started := s.started ++ [i] }.fire event)
  | handlerReturns (hh : s.handler = true) (hu : s.userCode = true) :
      Steps s .handlerReturns
        { s with
          handler := false
          t := { s.t with userThreadFuncs := s.t.userThreadFuncs.tail } }
  | handlerThrows (hh : s.handler = true) (hu : s.userCode = true) :
      Steps s .handlerThrows { s with handler := false, locked := false }
  | tickEnd (hl : s.locked = true) (hh : s.handler = false) (hq : s.t.userThreadFuncs = []) :
      Steps s .tickEnd { s with locked := false }
  | serviceMessage (ws : Nat) (msg : IncomingMessage) (now : UInt64) (event : SocketEvent)
      (hs : s.service ws = .running) (hm : NWebsocketCppRest.onSocketMessage ws msg = some event) :
      Steps s (.serviceMessage ws msg now)
        ({ s with t := { s.t with lastReceivedMessageTimeMs := now } }.setService ws
          (.handling event false))
  | serviceIgnores (ws : Nat) (msg : IncomingMessage) (now : UInt64)
      (hs : s.service ws = .running) (hm : NWebsocketCppRest.onSocketMessage ws msg = none) :
      Steps s (.serviceMessage ws msg now)
        { s with t := { s.t with lastReceivedMessageTimeMs := now } }
  | serviceClose (ws : Nat) (code : UInt16) (reason : String) (hs : s.service ws = .running) :
      Steps s (.serviceClose ws code reason)
        (s.setService ws (.handling (s.t.onClosed ws code reason) true))
  | serviceQueues (ws : Nat) (event : SocketEvent) (last : Bool)
      (hs : s.service ws = .handling event last) (hl : s.locked = false) :
      Steps s (.serviceQueues ws)
        ((s.push event).setService ws (if last then .done else .running))
  | connectDone (ws : Nat) (now : UInt64) (hws : ws ∈ s.connecting) :
      Steps s (.connectDone ws (.ok ()) now)
        { s with
          connecting := s.connecting.erase ws
          t := { s.t with lastReceivedMessageTimeMs := now }
          pool := s.pool ++ [.opened ws] }
  | connectFails (ws : Nat) (what : String) (now : UInt64) (hws : ws ∈ s.connecting) :
      Steps s (.connectDone ws (.error what) now)
        { s with
          connecting := s.connecting.erase ws
          pool := s.pool ++ [.error ("connect failed: " ++ what)] }
  | taskFails (description : String) :
      Steps s (.taskFails description) { s with pool := s.pool ++ [.error description] }
  | poolQueues (i : Nat) (event : SocketEvent) (hi : s.pool[i]? = some event)
      (hl : s.locked = false) :
      Steps s (.poolQueues i) ({ s with pool := s.pool.eraseIdx i }.push event)

theorem steps_of_step {s s' : WsState} {a : WsAction} (h : s.step a = some s') : s.Steps a s' := by
  cases a <;> simp only [step] at h
  case connect type outcome =>
    split at h <;> cases h
    next hu => exact .connect type outcome hu
  case disconnect =>
    split at h <;> cases h
    next hu => exact .disconnect hu
  case send built sent =>
    split at h <;> cases h
    next hu => exact .send built sent hu
  case setActivityTimeout ms =>
    split at h <;> cases h
    next hu => exact .setActivityTimeout ms hu
  case run =>
    split at h
    · next hw =>
      simp only [Bool.and_eq_true, Option.isNone_iff_eq_none] at hw
      exact .run s' hw.1 h
    · cases h
  case joined =>
    split at h
    · next ws hw =>
      split at h <;> cases h
      next hdone => exact .joined ws hw hdone
    · cases h
  case tickBegin now =>
    split at h <;> cases h
    next hu =>
    split
    · exact .tickInactive now hu
    · exact .tickBegin now hu
  case startEvent =>
    split at h
    · next i event queue hq =>
      split at h <;> cases h
      next hlock =>
      simp only [Bool.and_eq_true, Bool.not_eq_true'] at hlock
      exact .startEvent i event queue hq hlock.1 hlock.2
    · cases h
  case handlerReturns =>
    split at h <;> cases h
    next hh =>
    rw [Bool.and_eq_true] at hh
    exact .handlerReturns hh.1 hh.2
  case handlerThrows =>
    split at h <;> cases h
    next hh =>
    rw [Bool.and_eq_true] at hh
    exact .handlerThrows hh.1 hh.2
  case tickEnd =>
    split at h <;> cases h
    next hend =>
    simp only [Bool.and_eq_true, Bool.not_eq_true', List.isEmpty_iff] at hend
    exact .tickEnd hend.1.1 hend.1.2 hend.2
  case serviceMessage ws msg now =>
    split at h
    · next hs =>
      split at h <;> cases h
      · next event hm => exact .serviceMessage ws msg now event hs hm
      · next hm => exact .serviceIgnores ws msg now hs hm
    · cases h
  case serviceClose ws code reason =>
    split at h <;> cases h
    next hs => exact .serviceClose ws code reason hs
  case serviceQueues ws =>
    split at h
    · next event last hs =>
      split at h <;> cases h
      next hl => exact .serviceQueues ws event last hs (Bool.eq_false_iff.2 hl)
    · cases h
  case connectDone ws result now =>
    split at h
    · next hws =>
      split at h <;> cases h
      · exact .connectDone ws now hws
      · next what => exact .connectFails ws what now hws
    · cases h
  case taskFails description =>
    cases h
    exact .taskFails description
  case poolQueues i =>
    split at h
    · next event hi =>
      split at h <;> cases h
      next hl => exact .poolQueues i event hi (Bool.eq_false_iff.2 hl)
    · cases h

end WsState

end NakamaCpp.Realtime
