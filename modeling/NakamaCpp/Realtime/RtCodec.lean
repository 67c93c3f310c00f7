import NakamaCpp.Realtime.RtRun
import NakamaCpp.Realtime.RtLifetime
import NakamaCpp.Realtime.RtUrl

/-!
# The protocol that a frame is parsed with

`NRtClient` of src/realtime/NRtClient.cpp on the transport of src/realtime/NWebsocketCppRest.cpp.
`connect` replaces `_protocol` before the transport replaces its websocket, and the functions that
the old websocket has queued stay in the queue; `_reqContexts` stays as well.  `onTransportMessage`
knows no connection: it takes what `_protocol` and `_reqContexts` are when the tick runs it.

    drained : no frame waits or is about to be queued when `connect` is called, a websocket that
              has been replaced receives none, and a frame whose handler has called `connect` does
              not wait again
      →  every frame is parsed with the protocol of its own connection, and answers no
         request of a later one                                            (own_protocol)
-/

namespace NakamaCpp.Realtime

open CppStd Transition

/-! ## Data -/

/-- A connection, by its number, with the protocol that its `connect` chose. -/
structure RtConnection where
  number : Nat
  protocol : NRtClientProtocol
deriving DecidableEq, Repr

/-- The transport type for the protocol. -/
def NRtClientProtocol.transportType : NRtClientProtocol → NRtTransportType
  | .protobuf => .binary
  | .json => .text

/-- A frame that `onTransportMessage` has been given. -/
structure ParsedFrame where
  /-- the connection on which it arrived -/
  arrived : Option RtConnection
  /-- `_protocol` -/
  protocol : Option NRtClientProtocol
  /-- the last connection -/
  connection : Nat
  /-- the connection on which the request was issued that it answers -/
  answers : Option Nat
deriving DecidableEq, Repr

/-- The frame is parsed with the protocol of its connection `c`, and before a later one, and if it
answers a request then none of a later one. -/
structure ParsedFrame.Own (p : ParsedFrame) (c : RtConnection) : Prop where
  arrived : p.arrived = some c
  protocol : p.protocol = some c.protocol
  connection : p.connection = c.number
  answers : ∀ n, p.answers = some n → n ≤ c.number

/-- The websocket of a frame that waits to be parsed. -/
def SocketEvent.frameOf : SocketEvent → Option Nat
  | .message ws _ => some ws
  | _ => none

/-- That of one that is about to wait. -/
def Service.frameOf : Service → Option Nat
  | .handling event _ => event.frameOf
  | _ => none

/-- What the user thread is in. -/
inductive UserFrame
  /-- a function of the queue; `throws` when `std::stoi` has thrown in it -/
  | handler (throws : Bool)
  /-- `NRtClient::send`, after a failure -/
  | sending (failure : NRtClient.SendFailure)
  /-- a callback or a method of the listener -/
  | callback (f : Frame)

structure RtWsState where
  ws : WsState := {}
  client : NRtClient := {}
  /-- `_protocol` -/
  protocol : Option NRtClientProtocol := none
  /-- connections so far: calls of `connect` that have created a websocket -/
  connects : Nat := 0
  /-- the connection of a websocket -/
  origin : Nat → Option RtConnection := fun _ => none
  /-- the connection on which each request was issued -/
  requests : List Nat := []
  /-- innermost first -/
  frames : List UserFrame := []
  /-- oldest first -/
  parsed : List ParsedFrame := []

inductive RtWsAction
  /-- calls of the user -/
  | setListener (set : Bool)
  | connect (protocol : NRtClientProtocol) (outcome : ConnectOutcome)
  | request (successCallback errorCallback serializes : Bool) (built sent : Except String Unit)
  | sendMatchData (serializes : Bool) (built sent : Except String Unit)
  /-- `NRtClient::send` goes on after a failure -/
  | sendFails
  /-- the innermost callback ends -/
  | callbackReturns
  | callbackThrows
  /-- `tick`: a function of the queue is run, and ends -/
  | startEvent
  | handlerReturns
  | handlerThrows
  /-- the other steps of the transport, and the calls that only pass it on -/
  | transport (a : WsAction)

/-- A step after which a frame waits that did not. -/
def WsAction.bringsFrame : WsAction → Bool
  | .serviceMessage .. | .handlerThrows => true
  | _ => false

/-- A step that `NRtClient` takes part in. -/
def WsAction.ofClient : WsAction → Bool
  | .connect .. | .send .. | .startEvent | .handlerReturns | .handlerThrows => true
  | _ => false

namespace RtWsState

variable {π : Type}

/-! ## Steps -/

/-- The user thread runs code of the user. -/
def userCode (s : RtWsState) : Bool :=
  s.ws.userCode &&
    match s.frames with
    | [] => true
    | .callback _ :: _ => true
    | _ => false

/-- What follows a call into user code. -/
def finish (s : RtWsState) (f : Frame) : RtWsState :=
  { s with
    client := s.client.eraseReq f.erase
    ws := if f.disconnects then s.ws.disconnect else s.ws }

/-- Make the call of a dispatch, or go on at once when there is none. -/
def enter (s : RtWsState) (d : Dispatch π) (disconnects : Bool) : RtWsState :=
  if d.calls.isEmpty then s.finish ⟨d.erase, disconnects⟩
  else { s with frames := .callback ⟨d.erase, disconnects⟩ :: s.frames }

/-- The connection on which the request with this context was issued. -/
def issuedOn (s : RtWsState) (cid : Int32) : Option Nat :=
  (s.client.reqContexts[cid]?).bind fun ctx => s.requests[ctx.request]?

/-- `onTransportMessage`. -/
def onTransportMessage (parse : NRtClientProtocol → NBytes → Option (Envelope π)) (s : RtWsState)
    (ws : Nat) (payload : NBytes) : RtWsState :=
  let frame (answers : Option Nat) : ParsedFrame :=
    { arrived := s.origin ws, protocol := s.protocol, connection := s.connects, answers }
  let decode (data : NBytes) : Option (Envelope π) := s.protocol.bind fun p => parse p data
  match s.client.onTransportMessage s.ws.t.connected decode payload with
  | .ok d =>
    { s with
      frames := .handler false :: s.frames
      parsed := s.parsed ++ [frame (d.erase.bind s.issuedOn)] }.enter d false
  | .error _ =>
    { s with frames := .handler true :: s.frames, parsed := s.parsed ++ [frame none] }

/-- The function of the queue that a tick has started: what the transport calls in the client. -/
def run (parse : NRtClientProtocol → NBytes → Option (Envelope π)) (s : RtWsState) :
    SocketEvent → RtWsState
  | .message ws payload => s.onTransportMessage parse ws payload
  | event =>
    let s := { s with frames := .handler false :: s.frames }
    match event with
    | .opened _ =>
      s.enter ({ calls := if s.client.listener then [.listener .onConnect] else [] } : Dispatch π) false
    | .closed .. =>
      s.enter ({ calls := if s.client.listener then [.listener .onDisconnect] else [] } : Dispatch π)
        false
    | .error description =>
      s.enter (s.client.onTransportError s.ws.t.connected description : Dispatch π) false
    | _ => s

/-- `NRtClient::send`, up to a failure. -/
def send (s : RtWsState) (serializes : Bool) (built sent : Except String Unit) (cid : String) :
    RtWsState :=
  let ws := if s.ws.t.connected && serializes then s.ws.send built sent else s.ws
  match NRtClient.send s.ws.t.connected serializes (built.isOk && sent.isOk) cid with
  | .ok (some failure) => { s with ws, frames := .sending failure :: s.frames }
  | _ => { s with ws }

/-- `connect`. -/
def connect (s : RtWsState) (protocol : NRtClientProtocol) (outcome : ConnectOutcome) : RtWsState :=
  let s' := { s with
    ws := s.ws.connect protocol.transportType outcome
    protocol := some protocol }
  match outcome with
  -- the websocket of the last connection stays
  | .clientThrows _ => s'
  | _ =>
    { s' with
      connects := s.connects + 1
      origin := fun w =>
        if w = s.ws.created then some ⟨s.connects + 1, protocol⟩ else s.origin w }

def step (parse : NRtClientProtocol → NBytes → Option (Envelope π)) (s : RtWsState) :
    RtWsAction → Option RtWsState
  | .setListener set =>
    if s.userCode then some { s with client := { s.client with listener := set } } else none
  | .connect protocol outcome => if s.userCode then some (s.connect protocol outcome) else none
  | .request successCallback errorCallback serializes built sent =>
    if s.userCode then
      let (client, cid) :=
        s.client.createReqContext ⟨s.requests.length, successCallback, errorCallback⟩
      some ({ s with client, requests := s.requests ++ [s.connects] }.send serializes built sent
        (toString cid))
    else none
  | .sendMatchData serializes built sent =>
    if s.userCode then some (s.send serializes built sent "") else none
  | .sendFails =>
    match s.frames with
    | .sending f :: frames =>
      if s.ws.userCode then
        some ({ s with frames }.enter
          (s.client.reqInternalError f.cid f.error : Dispatch π) f.disconnects)
      else none
    | _ => none
  | .callbackReturns =>
    match s.frames with
    | .callback f :: frames => if s.ws.userCode then some ({ s with frames }.finish f) else none
    | _ => none
  | .callbackThrows =>
    match s.frames with
    | .callback _ :: .handler _ :: frames =>
      (s.ws.step .handlerThrows).map fun ws => { s with ws, frames }
    | .callback _ :: frames => if s.ws.userCode then some { s with frames } else none
    | _ => none
  | .startEvent =>
    match s.ws.t.userThreadFuncs with
    | (_, event) :: _ => (s.ws.step .startEvent).map fun ws => { s with ws }.run parse event
    | [] => none
  | .handlerReturns =>
    match s.frames with
    | .handler false :: frames =>
      (s.ws.step .handlerReturns).map fun ws => { s with ws, frames }
    | _ => none
  | .handlerThrows =>
    match s.frames with
    | .handler true :: frames =>
      (s.ws.step .handlerThrows).map fun ws => { s with ws, frames }
    | _ => none
  | .transport a =>
    if a.ofClient || a.call && !s.userCode then none
    else (s.ws.step a).map fun ws => { s with ws }

/-! ## Frames of ended connections -/

/-- The websocket is that of the last connection, and its protocol the last that was chosen. -/
def current (s : RtWsState) (w : Nat) : Bool :=
  (s.origin w).any fun c => c.number == s.connects && s.protocol == some c.protocol

/-- No frame waits, and the websocket is not about to queue one. -/
def noFrame (s : RtWsState) : Bool :=
  s.ws.waiting.all (fun p => p.2.frameOf.isNone) &&
    s.ws.t.wsClient.all fun w => (s.ws.service w).frameOf.isNone

/-- No frame is there when `connect` is called, but when it keeps the websocket and the protocol,
and none is received on a websocket that has been replaced.  A callback that has called `connect`
does not throw out of the handler of a frame, which would be parsed again. -/
def drained (s : RtWsState) : RtWsAction → Bool
  | .connect protocol (.clientThrows _) => s.protocol == some protocol || s.noFrame
  | .connect .. => s.noFrame
  | .transport (.serviceMessage w msg _) =>
    ((NWebsocketCppRest.onSocketMessage w msg).bind SocketEvent.frameOf).all s.current
  | .callbackThrows => s.ws.t.userThreadFuncs.head?.all fun p => p.2.frameOf.all s.current
  | .handlerThrows => s.ws.t.userThreadFuncs.head?.all fun p => p.2.frameOf.all s.current
  | _ => true

/-- What one step keeps. -/
structure Inv (s : RtWsState) : Prop where
  owned : s.ws.Owned
  pending : s.ws.Pending (fun e => e.frameOf.all s.current = true) fun e => e.frameOf = none
  requests : ∀ n ∈ s.requests, n ≤ s.connects
  parsed : ∀ p ∈ s.parsed, ∃ c, p.Own c

theorem Inv.init : Inv {} where
  owned := by
    refine ⟨fun w h => ?_, fun w h => ?_, by rintro ⟨⟩⟩
    · cases h
    · cases h
  pending := by
    refine ⟨fun p h => ?_, fun w event last h => ?_, fun event h => ?_, fun event h => ?_⟩
    · cases h
    · cases h
    · cases h
    · cases h
  requests := by simp
  parsed := by simp

/-- A step of the transport that is no `connect`. -/
theorem Inv.transport {s : RtWsState} {a : WsAction} {ws : WsState} (hi : Inv s)
    (hmessage : ∀ w msg now event, a = .serviceMessage w msg now →
      NWebsocketCppRest.onSocketMessage w msg = some event → event.frameOf.all s.current = true)
    (hagain : a = .handlerThrows →
      ∀ p ∈ s.ws.t.userThreadFuncs.head?, p.2.frameOf.all s.current = true)
    (h : s.ws.step a = some ws) : Inv { s with ws } where
  owned := hi.owned.step h
  pending := by
    refine hi.pending.step ⟨fun event he => ?_, fun _ => rfl, fun _ _ => rfl, fun _ _ _ => rfl,
      hmessage, hagain⟩ h
    rw [he]
    rfl
  requests := hi.requests
  parsed := hi.parsed

/-- One that brings no frame. -/
theorem Inv.passed {s : RtWsState} {a : WsAction} {ws : WsState} (hi : Inv s)
    (ha : a.bringsFrame = false) (h : s.ws.step a = some ws) : Inv { s with ws } := by
  refine hi.transport ?_ ?_ h
  · rintro w msg now event rfl
    cases ha
  · rintro rfl
    cases ha

/-- `tick` is left by an exception. -/
theorem Inv.thrown {s : RtWsState} {ws : WsState} (hi : Inv s)
    (hagain : ∀ p ∈ s.ws.t.userThreadFuncs.head?, p.2.frameOf.all s.current = true)
    (h : s.ws.step .handlerThrows = some ws) : Inv { s with ws } :=
  hi.transport (by rintro w msg now event ⟨⟩) (fun _ => hagain) h

/-- The event that a tick takes from the queue. -/
theorem Inv.front {s : RtWsState} (hi : Inv s) {i : Nat} {event : SocketEvent}
    {queue : List (Nat × SocketEvent)} {ws : WsState}
    (hq : s.ws.t.userThreadFuncs = (i, event) :: queue) (h : s.ws.step .startEvent = some ws) :
    event.frameOf.all s.current = true := by
  have hh : s.ws.handler = false := by
    cases WsState.steps_of_step h with
    | startEvent i event queue hq hl hh => exact hh
  refine hi.pending.waiting (i, event) ?_
  rw [WsState.waiting, hh, hq]
  exact List.mem_cons_self

/-- What else `NRtClient` keeps. -/
theorem Inv.aside {s : RtWsState} (hi : Inv s) (client : NRtClient) (frames : List UserFrame) :
    Inv { s with client, frames } :=
  ⟨hi.owned, hi.pending, hi.requests, hi.parsed⟩

theorem Inv.finish {s : RtWsState} (hi : Inv s) {f : Frame}
    (hu : f.disconnects = true → s.ws.userCode = true) : Inv (s.finish f) := by
  have hi' : Inv { s with client := s.client.eraseReq f.erase } := hi.aside _ _
  unfold RtWsState.finish
  split
  · next hd =>
    refine hi'.passed (a := .disconnect) rfl ?_
    exact if_pos (hu hd)
  · exact hi'

theorem Inv.enter {s : RtWsState} (hi : Inv s) {d : Dispatch π} {disconnects : Bool}
    (hu : disconnects = true → s.ws.userCode = true) : Inv (s.enter d disconnects) := by
  unfold RtWsState.enter
  split
  · exact hi.finish hu
  · exact hi.aside _ _

/-- With no frame there, every frame is of whichever connection comes. -/
theorem Inv.pending_of_noFrame {s : RtWsState} (hi : Inv s) (hu : s.ws.userCode = true)
    (h : s.noFrame = true) (Q : SocketEvent → Prop) (hQ : ∀ e : SocketEvent, e.frameOf = none → Q e) :
    s.ws.Pending Q fun e => e.frameOf = none := by
  simp only [noFrame, Bool.and_eq_true, List.all_eq_true, Option.isNone_iff_eq_none,
    Option.all_eq_true] at h
  refine ⟨fun p hp => hQ _ (h.1 p hp), fun w event last hs => hQ _ ?_, hi.pending.pool, hi.pending.code⟩
  -- a thread that still runs is that of the current websocket
  have hbusy : (s.ws.service w).quiet = false := by rw [hs]; rfl
  rcases hi.owned.busy w hbusy with hw | hw | hw
  · have := h.2 w hw
    rwa [hs] at this
  · rw [WsState.waits_of_userCode hu] at hw
    cases hw
  · rw [WsState.code_nil_of_userCode hu] at hw
    cases hw

theorem Inv.connect {s : RtWsState} (hi : Inv s) {protocol : NRtClientProtocol}
    {outcome : ConnectOutcome} (hu : s.ws.userCode = true)
    (hok : s.drained (.connect protocol outcome) = true) : Inv (s.connect protocol outcome) := by
  have howned : (s.ws.connect protocol.transportType outcome).Owned :=
    hi.owned.connect hu protocol.transportType outcome
  have hcurrent : ∀ (s' : RtWsState) (e : SocketEvent), e.frameOf = none →
      e.frameOf.all s'.current = true := by
    intro s' e he
    rw [he]
    rfl
  have hdrained : ∀ s' : RtWsState, s.noFrame = true →
      (s.ws.connect protocol.transportType outcome).Pending
        (fun e => e.frameOf.all s'.current = true) fun e => e.frameOf = none := fun s' h =>
    (hi.pending_of_noFrame hu h _ (hcurrent s')).connect (fun _ => rfl) _ _
  have hlater : ∀ n ∈ s.requests, n ≤ s.connects + 1 := fun n hn =>
    Nat.le_succ_of_le (hi.requests n hn)
  cases outcome with
  | clientThrows what =>
    refine ⟨howned, ?_, hi.requests, hi.parsed⟩
    rcases Bool.or_eq_true_iff.1 hok with hsame | h
    · have hp := hi.pending.connect (fun _ => rfl) protocol.transportType (.clientThrows what)
      unfold current at hp
      rw [beq_iff_eq.1 hsame] at hp
      exact hp
    · exact hdrained _ h
  | uriThrows what => exact ⟨howned, hdrained _ hok, hlater, hi.parsed⟩
  | started => exact ⟨howned, hdrained _ hok, hlater, hi.parsed⟩

theorem Inv.send {s : RtWsState} (hi : Inv s) (hu : s.ws.userCode = true) (serializes : Bool)
    (built sent : Except String Unit) (cid : String) : Inv (s.send serializes built sent cid) := by
  have hws : Inv { s with
      ws := if s.ws.t.connected && serializes then s.ws.send built sent else s.ws } := by
    split
    · refine hi.passed (a := .send built sent) rfl ?_
      exact if_pos hu
    · exact hi
  unfold RtWsState.send
  generalize (if s.ws.t.connected && serializes then s.ws.send built sent else s.ws) = ws at hws ⊢
  simp only
  split
  · exact hws.aside _ _
  · exact hws

/-- The frame at the front of the queue is of the current connection. -/
theorem Inv.onTransportMessage {s : RtWsState} (hi : Inv s) {ws : Nat} (hc : s.current ws = true)
    (parse : NRtClientProtocol → NBytes → Option (Envelope π)) (payload : NBytes) :
    Inv (s.onTransportMessage parse ws payload) := by
  obtain ⟨c, ho, hc⟩ := (Option.any_eq_true _ _).1 hc
  obtain ⟨hn, hprotocol⟩ := Bool.and_eq_true_iff.1 hc
  have hn : c.number = s.connects := beq_iff_eq.1 hn
  have hown : ∀ answers : Option Nat, (∀ n, answers = some n → n ≤ s.connects) → ∀ p ∈
      s.parsed ++ [{ arrived := s.origin ws, protocol := s.protocol, connection := s.connects, answers }],
      ∃ c, p.Own c := by
    intro answers ha p hp
    rcases List.mem_append.1 hp with hp | hp
    · exact hi.parsed p hp
    · obtain rfl := List.mem_singleton.1 hp
      exact ⟨c, ho, beq_iff_eq.1 hprotocol, hn.symm, hn ▸ ha⟩
  have hissued : ∀ cid n, s.issuedOn cid = some n → n ≤ s.connects := by
    intro cid n h
    obtain ⟨ctx, -, hr⟩ := Option.bind_eq_some_iff.1 h
    exact hi.requests n (List.mem_of_getElem? hr)
  unfold RtWsState.onTransportMessage
  simp only
  split
  · refine Inv.enter ?_ (by rintro ⟨⟩)
    refine ⟨hi.owned, hi.pending, hi.requests, hown _ fun n h => ?_⟩
    obtain ⟨cid, -, h⟩ := Option.bind_eq_some_iff.1 h
    exact hissued cid n h
  · exact ⟨hi.owned, hi.pending, hi.requests, hown none (by rintro n ⟨⟩)⟩

theorem Inv.run {s : RtWsState} (hi : Inv s)
    (parse : NRtClientProtocol → NBytes → Option (Envelope π)) (event : SocketEvent)
    (he : event.frameOf.all s.current = true) : Inv (s.run parse event) := by
  have hframe : Inv { s with frames := .handler false :: s.frames } := hi.aside _ _
  cases event with
  | message ws payload => exact hi.onTransportMessage he parse payload
  | opened ws => exact hframe.enter (by rintro ⟨⟩)
  | closed ws info => exact hframe.enter (by rintro ⟨⟩)
  | error description => exact hframe.enter (by rintro ⟨⟩)
  | ping => exact hframe
  | pong => exact hframe

theorem Inv.step {parse : NRtClientProtocol → NBytes → Option (Envelope π)} {s s' : RtWsState}
    {a : RtWsAction} (hi : Inv s) (hok : s.drained a = true) (h : s.step parse a = some s') :
    Inv s' := by
  have hws : ∀ {s : RtWsState}, s.userCode = true → s.ws.userCode = true := fun hu =>
    (Bool.and_eq_true_iff.1 hu).1
  cases a <;> simp only [RtWsState.step] at h
  case setListener set =>
    split at h <;> cases h
    exact hi.aside _ _
  case connect protocol outcome =>
    split at h <;> cases h
    next hu => exact hi.connect (hws hu) hok
  case request successCallback errorCallback serializes built sent =>
    split at h <;> cases h
    next hu =>
    have hu := hws hu
    refine Inv.send ?_ ?_ serializes built sent _
    · refine ⟨hi.owned, hi.pending, fun n hn => ?_, hi.parsed⟩
      rcases List.mem_append.1 hn with hn | hn
      · exact hi.requests n hn
      · exact Nat.le_of_eq (List.mem_singleton.1 hn)
    · exact hu
  case sendMatchData serializes built sent =>
    split at h <;> cases h
    next hu => exact hi.send (hws hu) serializes built sent ""
  case sendFails =>
    split at h
    · split at h <;> cases h
      next hu =>
      exact (hi.aside _ _).enter fun _ => hu
    · cases h
  case callbackReturns =>
    split at h
    · split at h <;> cases h
      next hu =>
      exact (hi.aside _ _).finish fun _ => hu
    · cases h
  case callbackThrows =>
    split at h
    · obtain ⟨ws, hstep, rfl⟩ := Option.map_eq_some_iff.1 h
      have hi' := hi.thrown ((Option.all_eq_true _ _).1 hok) hstep
      exact hi'.aside _ _
    · split at h <;> cases h
      exact hi.aside _ _
    · cases h
  case startEvent =>
    split at h
    · next i event queue hq =>
      obtain ⟨ws, hstep, rfl⟩ := Option.map_eq_some_iff.1 h
      exact (hi.passed rfl hstep).run parse event (hi.front hq hstep)
    · cases h
  case handlerReturns =>
    split at h
    · obtain ⟨ws, hstep, rfl⟩ := Option.map_eq_some_iff.1 h
      have hi' := hi.passed (a := .handlerReturns) rfl hstep
      exact hi'.aside _ _
    · cases h
  case handlerThrows =>
    split at h
    · obtain ⟨ws, hstep, rfl⟩ := Option.map_eq_some_iff.1 h
      have hi' := hi.thrown ((Option.all_eq_true _ _).1 hok) hstep
      exact hi'.aside _ _
    · cases h
  case transport a =>
    split at h
    · cases h
    · next hnot =>
      obtain ⟨ws, hstep, rfl⟩ := Option.map_eq_some_iff.1 h
      refine hi.transport ?_ ?_ hstep
      · rintro w msg now event rfl hmsg
        simp only [drained, hmsg, Option.bind_some] at hok
        exact hok
      · rintro rfl
        exact absurd rfl hnot

/-- **Own protocol.**  In every run that is drained when it connects, every frame is parsed with
the protocol of the connection on which it arrived, while that is the last one, and answers no
request of a later one. -/
theorem own_protocol (parse : NRtClientProtocol → NBytes → Option (Envelope π)) {s : RtWsState}
    (h : Reach (step parse) (fun s a => drained s a = true) {} s) : ∀ p ∈ s.parsed, ∃ c, p.Own c :=
  (h.invariant Inv.init fun _ _ _ hi hok hs => hi.step hok hs).parsed

/-- The answer to the request with cid 0, in either protocol. -/
def answerFrame : NRtClientProtocol → NBytes
  | .json => ⟨#[0x7b, 0x22, 0x63, 0x69, 0x64, 0x22, 0x3a, 0x22, 0x30, 0x22, 0x2c, 0x22, 0x72, 0x70,
      0x63, 0x22, 0x3a, 0x7b, 0x7d, 0x7d]⟩
  | .protobuf => ⟨#[0x0a, 0x01, 0x30, 0xc2, 0x01, 0x00]⟩

/-- Each of them is no envelope in the other protocol. -/
def parseAnswer (protocol : NRtClientProtocol) (data : NBytes) : Option (Envelope Unit) :=
  if data = answerFrame protocol then some { cid := "0", messageCase := .rpc, payload := () }
  else none

/-- A connection is opened. -/
def opening (protocol : NRtClientProtocol) (ws : Nat) : List RtWsAction :=
  [.connect protocol .started, .transport .run, .transport .run,
    .transport (.connectDone ws (.ok ()) 1), .transport (.poolQueues 0), .transport (.tickBegin 2),
    .transport .run, .startEvent, .handlerReturns, .transport .tickEnd]

/-- A frame is received. -/
def receiving (ws : Nat) (messageType : MessageType) (payload : NBytes) : List RtWsAction :=
  [.transport (.serviceMessage ws ⟨messageType, .ok payload⟩ 3), .transport (.serviceQueues ws)]

/-- `action` destroys a websocket, and waits for its service thread. -/
def destroying (action : RtWsAction) (ws : Nat) : List RtWsAction :=
  [action, .transport .run, .transport (.serviceClose ws 1000 ""), .transport (.serviceQueues ws),
    .transport .joined]

/-- The rest of a `connect`. -/
def setting : List RtWsAction := [.transport .run, .transport .run]

/-- A request, on whichever connection it is. -/
def requesting : List RtWsAction := [.request true true true (.ok ()) (.ok ())]

/-- A tick up to the first event that waits. -/
def ticking : List RtWsAction := [.transport (.tickBegin 4), .transport .run, .startEvent]

/-- Its end, when that event was the last. -/
def ticked : List RtWsAction := [.handlerReturns, .transport .tickEnd]

/-- A request is answered on a connection with JSON, and one on the next, with protobuf. -/
def drainedRun : List RtWsAction :=
  opening .json 0 ++ requesting ++ receiving 0 .textMessage (answerFrame .json) ++ ticking ++
    RtWsAction.callbackReturns :: (ticked ++ destroying (.transport .disconnect) 0 ++ ticking ++ ticked ++
      opening .protobuf 1 ++ requesting ++ receiving 1 .binaryMessage (answerFrame .protobuf) ++ ticking)

theorem own_protocol_drainedRun :
    ∃ s, exec (step parseAnswer) (fun s a => drained s a = true) {} drainedRun = some s ∧
      s.parsed.length = 2 ∧ ∀ p ∈ s.parsed, ∃ c, p.Own c := by
  have h : (exec (step parseAnswer) (fun s a => drained s a = true) {} drainedRun).map
      (fun s => s.parsed.length) = some 2 := by decide
  obtain ⟨s, hs, hlength⟩ := Option.map_eq_some_iff.1 h
  exact ⟨s, hs, hlength, own_protocol parseAnswer (Reach.of_exec drainedRun hs)⟩

/-- Between its receipt and the tick there are a disconnect and a connect with another protocol. -/
def crossedRun : List RtWsAction :=
  opening .json 0 ++ receiving 0 .textMessage (answerFrame .json) ++
    destroying (.transport .disconnect) 0 ++ RtWsAction.connect .protobuf .started :: (setting ++ ticking)

/-- A connect without a disconnect, and a request. -/
def replacedRun : List RtWsAction :=
  opening .json 0 ++ receiving 0 .textMessage (answerFrame .json) ++
    destroying (.connect .json .started) 0 ++ setting ++ requesting ++ ticking

/-- A run in which one frame is parsed, not as its own. -/
theorem exists_parsed {l : List RtWsAction} {p : ParsedFrame}
    (h : (exec (step parseAnswer) anyStep {} l).map parsed = some [p]) (hp : ¬ ∃ c, p.Own c) :
    ∃ s, Reach (step parseAnswer) anyStep {} s ∧ s.parsed = [p] ∧ ∀ p ∈ s.parsed, ¬ ∃ c, p.Own c := by
  obtain ⟨s, hs, hparsed⟩ := Option.map_eq_some_iff.1 h
  refine ⟨s, Reach.of_exec l hs, hparsed, fun p' hmem => ?_⟩
  rw [hparsed] at hmem
  rw [List.mem_singleton.1 hmem]
  exact hp

/-- A frame of JSON is parsed as protobuf, and one of an ended connection answers a request of the
next. -/
theorem not_own_protocol :
    (∃ s, Reach (step parseAnswer) anyStep {} s ∧
      s.parsed = [⟨some ⟨1, .json⟩, some .protobuf, 2, none⟩] ∧ ∀ p ∈ s.parsed, ¬ ∃ c, p.Own c) ∧
    ∃ s, Reach (step parseAnswer) anyStep {} s ∧
      s.parsed = [⟨some ⟨1, .json⟩, some .json, 2, some 2⟩] ∧ ∀ p ∈ s.parsed, ¬ ∃ c, p.Own c := by
  have hc : (exec (step parseAnswer) anyStep {} crossedRun).map parsed =
      some [⟨some ⟨1, .json⟩, some .protobuf, 2, none⟩] := by decide
  have hr : (exec (step parseAnswer) anyStep {} replacedRun).map parsed =
      some [⟨some ⟨1, .json⟩, some .json, 2, some 2⟩] := by decide
  refine ⟨exists_parsed hc ?_, exists_parsed hr ?_⟩
  · rintro ⟨c, harrived, hprotocol, -, -⟩
    cases harrived
    cases hprotocol
  · rintro ⟨c, harrived, -, -, hanswers⟩
    cases harrived
    exact absurd (hanswers 2 rfl) (by decide)

end RtWsState

end NakamaCpp.Realtime
