import NakamaCpp.Realtime.RtProtocol

/-!
# The client and a server

`NRtClient` with a protocol, a server, and the frames between them.  The operations and the
callbacks are those of `RtRun.lean`; what is carried are bytes.  The server reads the frames that
reach it, answers envelopes with a cid once and whenever it likes, with any message, and pushes
messages.  Frames may be lost and are not repeated.

Here are the state, the steps, and what each step of the client does to the requests and to the
calls into user code; the runs are in `RtSessionRun.lean`.
-/

namespace NakamaCpp.RtApi

open CppStd Std Transition CApi Realtime

/-! ## State and steps -/

/-- A message of the server: a member of the oneof. -/
abbrev Member := (k : MessageCase) × Message k

structure RtSession (P : NRtClientProtocolInterface) where
  rt : RtState Envelope := {}
  /-- the operation of each request -/
  ops : List RtOp := []
  /-- frames on the way to the server and to the client, oldest first -/
  (up down : List NBytes := [])
  /-- envelopes with a cid that the server has read and not answered -/
  asked : List Envelope := []
  /-- all that the client has given to the transport, and what the server has read of it -/
  (sent read : List Envelope := [])
  /-- all that the server has sent, and what the client has read of it -/
  (told heard : List Envelope := [])
  /-- the answers, and the messages that are none -/
  answered : List (Envelope × Member) := []
  pushed : List Member := []

inductive RtSessionAction
  /-- an operation; `sends` is what the transport's `send` returns -/
  | perform (op : RtOp) (successCallback errorCallback sends : Bool)
  /-- anything that happens to the client but operations and frames -/
  | local_ (a : RtAction Envelope)
  /-- the server reads a frame -/
  | arrives
  /-- the server answers one of the envelopes that it has read -/
  | answers (n : Nat) (message : Member)
  | pushes (message : Member)
  /-- the client reads a frame -/
  | receives
  /-- a frame is lost on its way, or an envelope is not answered -/
  | upLost (n : Nat)
  | downLost (n : Nat)
  | unanswered (n : Nat)

/-- Neither an operation nor a frame. -/
def isLocal {π : Type} : RtAction π → Bool
  | .request .. | .sendMatchData .. | .answer .. | .push .. => false
  | _ => true

/-- The request that a frame answers. -/
def answeredBy {π : Type} (s : RtState π) (msg : Realtime.Envelope π) : Option Nat :=
  if msg.cid = "" then none
  else
    match stoi msg.cid with
    | .ok cid => s.client.reqContexts[cid]?.map RtRequestContext.request
    | .error _ => none

/-- What the listener is given, if that comes from a message. -/
def listenerPayload {π : Type} : ListenerCall π → Option π
  | .onConnect | .onDisconnect | .onError _ => none
  | .onChannelMessage m | .onChannelPresence m | .onMatchData m | .onMatchPresence m
  | .onMatchmakerMatched m | .onNotifications m | .onStatusPresence m | .onStreamData m
  | .onStreamPresence m => some m

/-- The request whose success callback is called, and the envelope. -/
def successOf : UserCall Envelope → Option (Nat × Envelope)
  | .success q msg => some (q, msg.payload)
  | _ => none

namespace RtSession

variable {P : NRtClientProtocolInterface}

/-- The cid that `createReqContext` takes; match data has none. -/
def cid (s : RtSession P) (op : RtOp) : String :=
  if op.hasContext then toString s.rt.client.resetCid.nextCid else ""

/-- `onTransportMessage`; the request that it answers is in flight no more. -/
def receiveFrame (s : RtSession P) (parsed : Option (Realtime.Envelope Envelope)) : RtState Envelope :=
  let origin := parsed.bind (answeredBy s.rt)
  { s.rt with inFlight := s.rt.inFlight.filter fun p => some p.1 != origin }.receive origin parsed

/-- The client's part of an operation. -/
def request (op : RtOp) (successCallback errorCallback serializes sends : Bool) :
    RtAction Envelope :=
  if op.hasContext then .request successCallback errorCallback serializes sends
  else .sendMatchData serializes sends

def step (s : RtSession P) : RtSessionAction → Option (RtSession P)
  | .perform op successCallback errorCallback sends => do
    let msg := requestEnvelope (s.cid op) op
    let bytes := P.serialize msg
    let rt ← s.rt.step (request op successCallback errorCallback bytes.isSome sends)
    let taken := if s.rt.connected && sends then bytes else none
    return { s with
      rt
      ops := if op.hasContext then s.ops ++ [op] else s.ops
      up := s.up ++ taken.toList
      sent := s.sent ++ (taken.map fun _ => msg).toList }
  | .local_ a => do
    if isLocal a then
      let rt ← s.rt.step a
      return { s with rt }
    else none
  | .arrives =>
    match s.up with
    | [] => none
    | frame :: up => some
      { s with
        up
        asked := s.asked ++ ((P.parse frame).filter fun msg => msg.cid != "").toList
        read := s.read ++ (P.parse frame).toList }
  | .answers n message => do
    let msg ← s.asked[n]?
    let frame ← P.serialize { cid := msg.cid, message }
    return { s with
      asked := s.asked.eraseIdx n
      down := s.down ++ [frame]
      told := s.told ++ [{ cid := msg.cid, message }]
      answered := s.answered ++ [(msg, message)] }
  | .pushes message => do
    let frame ← P.serialize { message }
    return { s with
      down := s.down ++ [frame]
      told := s.told ++ [{ message }]
      pushed := s.pushed ++ [message] }
  | .receives =>
    match s.down with
    | [] => none
    | frame :: down => some
      { s with
        down
        heard := s.heard ++ (P.parse frame).toList
        rt := s.receiveFrame ((P.parse frame).map (Envelope.received id)) }
  | .upLost n => some { s with up := s.up.eraseIdx n }
  | .downLost n => some { s with down := s.down.eraseIdx n }
  | .unanswered n => some { s with asked := s.asked.eraseIdx n }

/-- Fewer than 2^31 ids are issued between two resets of the counter. -/
def idsBounded (s : RtSession P) : RtSessionAction → Bool
  | .perform op .. => !op.hasContext || decide (s.rt.issuedNext < 2 ^ 31)
  | _ => true

/-! ## What is to hold -/

/-- The server has answered the envelope of request `q` with the message. -/
def Answered (s : RtSession P) (q : Nat) (cid : String) (message : Member) : Prop :=
  ∃ op, s.ops[q]? = some op ∧ (requestEnvelope cid op, message) ∈ s.answered

/-- A call into user code has its cause: a local failure, or what the server has sent. -/
def Justified (s : RtSession P) : UserCall Envelope → Prop
  | .success q msg => s.Answered q msg.cid msg.payload.message ∧ msg.payload.cid = msg.cid
  | .error q e =>
    e.code = RtErrorCode.connectError ∨ e.code = RtErrorCode.transportError ∨
      ∃ cid m, s.Answered q cid ⟨.error, m⟩ ∧ e = RtApi.Error.assign m
  | .listener call => ∀ msg, listenerPayload call = some msg →
    msg.message ∈ s.pushed ∧ NRtClient.pushCall (Envelope.received id msg) = some call

/-- The requests whose success callback has been called, with the envelope that it has read. -/
def results (s : RtSession P) : List (Nat × Envelope) :=
  s.rt.deliveries.filterMap fun d => successOf d.2

end RtSession

/-! ## Steps of the client -/

section
variable {π : Type} {s s' : RtState π}

theorem enter_frame (s : RtState π) (origin : Option Nat) (d : Dispatch π) (b : Bool) :
    (s.enter origin d b).inFlight = s.inFlight ∧ (s.enter origin d b).requests = s.requests ∧
      (s.enter origin d b).deliveries = s.deliveries ++ d.calls.map fun call => (origin, call) := by
  unfold RtState.enter
  split
  · next h =>
    rw [List.isEmpty_iff.1 h, List.map_nil, List.append_nil]
    exact ⟨rfl, rfl, rfl⟩
  · exact ⟨rfl, rfl, rfl⟩

/-- A call of the listener that brings no message. -/
def Quiet (call : UserCall π) : Prop := ∃ c, call = .listener c ∧ listenerPayload c = none

/-- What a step leaves of requests and deliveries if it is no operation and no frame. -/
structure Passive (s s' : RtState π) : Prop where
  inFlight : s'.inFlight = s.inFlight
  requests : s'.requests.length = s.requests.length
  deliveries : ∃ ds, s'.deliveries = s.deliveries ++ ds ∧ ∀ d ∈ ds, Quiet d.2

theorem Passive.of_eq (hinFlight : s'.inFlight = s.inFlight)
    (hrequests : s'.requests.length = s.requests.length)
    (hdeliveries : s'.deliveries = s.deliveries) : Passive s s' :=
  ⟨hinFlight, hrequests, [], by rw [hdeliveries, List.append_nil], fun _ h => absurd h List.not_mem_nil⟩

theorem Passive.enter (s t : RtState π) (hinFlight : t.inFlight = s.inFlight)
    (hrequests : t.requests = s.requests) (hdeliveries : t.deliveries = s.deliveries)
    {d : Dispatch π} (hd : ∀ call ∈ d.calls, Quiet call) (origin : Option Nat) (b : Bool) :
    Passive s (t.enter origin d b) := by
  obtain ⟨hinFlight', hrequests', hdeliveries'⟩ := enter_frame t origin d b
  rw [hdeliveries] at hdeliveries'
  refine ⟨hinFlight'.trans hinFlight, congrArg List.length (hrequests'.trans hrequests), _,
    hdeliveries', ?_⟩
  intro e he
  obtain ⟨call, hcall, rfl⟩ := List.mem_map.1 he
  exact hd call hcall

theorem quiet_listener {set : Bool} {c : ListenerCall π} (hc : listenerPayload c = none) :
    ∀ call ∈ (if set then [UserCall.listener c] else []), Quiet call := by
  intro call hcall
  split at hcall
  · exact ⟨c, List.mem_singleton.1 hcall, hc⟩
  · cases hcall

theorem passive_of_local {a : RtAction π} (ha : isLocal a = true) (h : s.step a = some s') :
    Passive s s' := by
  cases a with
  | request | sendMatchData | answer | push => cases ha
  | setListener set =>
    cases h
    refine .of_eq rfl ?_ rfl
    dsimp only
    split
    · rfl
    · exact List.length_map ..
  | disconnect | dropped =>
    cases h
    exact .of_eq rfl rfl rfl
  | opened =>
    cases h
    refine .enter s _ ?_ ?_ ?_ ?_ none false
    · rfl
    · rfl
    · rfl
    · exact quiet_listener rfl
  | ended c =>
    rw [RtState.step] at h
    split at h
    · cases h
      refine .enter s _ ?_ ?_ ?_ ?_ none false
      · rfl
      · rfl
      · rfl
      · exact quiet_listener rfl
    · cases h
  | transportError description =>
    cases h
    exact .enter s s rfl rfl rfl (quiet_listener rfl) none false
  | callbackReturns | callbackThrows =>
    rw [RtState.step] at h
    split at h
    · cases h
      exact .of_eq rfl rfl rfl
    · cases h

/-- An error of the client's own. -/
def LocalError (e : NRtError) : Prop :=
  e.code = RtErrorCode.connectError ∨ e.code = RtErrorCode.transportError

theorem send_eq (connected serializes sends : Bool) (cid : Int32) :
    (connected = true ∧ serializes = true ∧ sends = true ∧
        NRtClient.send connected serializes sends (toString cid) = .ok none) ∨
      (connected && serializes && sends) = false ∧ ∃ e b, LocalError e ∧
        NRtClient.send connected serializes sends (toString cid) = .ok (some ⟨cid, e, b⟩) := by
  unfold NRtClient.send
  rw [stoi_toString]
  cases connected
  · exact .inr ⟨rfl, _, _, .inl rfl, rfl⟩
  · cases serializes
    · exact .inr ⟨rfl, _, _, .inr rfl, rfl⟩
    · cases sends
      · exact .inr ⟨rfl, _, _, .inr rfl, rfl⟩
      · exact .inl ⟨rfl, rfl, rfl, rfl⟩

/-- An operation with a context is transmitted, or its failure is told. -/
theorem request_step (s : RtState π) (sc ec serializes sends : Bool) :
    ((s.connected && serializes && sends) = true ∧
        s.step (.request sc ec serializes sends) = some { s.issue sc ec with
          inFlight := s.inFlight ++ [(s.requests.length, toString s.client.resetCid.nextCid)] }) ∨
      (s.connected && serializes && sends) = false ∧ ∃ e b, LocalError e ∧
        s.step (.request sc ec serializes sends) = some ((s.issue sc ec).enter
          (some s.requests.length)
          ((s.issue sc ec).client.reqInternalError s.client.resetCid.nextCid e) b) := by
  have hcid : (s.client.createReqContext ⟨s.requests.length, sc, ec⟩).2 =
      s.client.resetCid.nextCid := rfl
  rw [RtState.step, hcid]
  rcases send_eq s.connected serializes sends s.client.resetCid.nextCid with
    ⟨hc, hser, hs, hsend⟩ | ⟨hno, e, b, he, hsend⟩
  · refine .inl ⟨by rw [hc, hser, hs]; rfl, ?_⟩
    rw [hsend]
    rfl
  · refine .inr ⟨hno, e, b, he, ?_⟩
    rw [hsend]
    rfl

theorem sendMatchData_step (s : RtState π) (serializes sends : Bool) :
    s.step (.sendMatchData serializes sends) = some s :=
  congrArg some (RtState.afterSend_empty s s.connected serializes sends)

/-- The calls for a local failure. -/
theorem reqInternalError_calls (c : NRtClient) (cid : Int32) (e : NRtError) :
    ∀ call ∈ (c.reqInternalError cid e : Dispatch π).calls,
      (∃ q, call = .error q e) ∨ Quiet call := by
  unfold NRtClient.reqInternalError
  split
  · split
    · intro call hcall
      exact .inl ⟨_, List.mem_singleton.1 hcall⟩
    · intro call hcall
      exact .inr (quiet_listener rfl call hcall)
  · intro call hcall
    cases hcall

end

/-! ## Frames that the client reads -/

section
variable {P : NRtClientProtocolInterface} {s : RtSession P} {msg : Envelope}

/-- A frame without cid is a push. -/
theorem receiveFrame_push (hcid : msg.cid = "") :
    s.rt.step (.push (some (Envelope.received id msg))) =
      some (s.receiveFrame (some (Envelope.received id msg))) := by
  have hnone : answeredBy s.rt (Envelope.received id msg) = none := if_pos hcid
  have hall : (s.rt.inFlight.filter fun p => some p.1 != (none : Option Nat)) = s.rt.inFlight :=
    List.filter_eq_self.2 fun _ _ => rfl
  have hnew : s.rt.unsolicited (some (Envelope.received id msg)) = true := by
    show (msg.cid == "" || _) = true
    rw [hcid]
    rfl
  rw [RtState.step, if_pos hnew, RtSession.receiveFrame, Option.bind_some, hnone, hall]

/-- The calls for a push. -/
theorem receiveFrame_push_eq (hcid : msg.cid = "") :
    s.receiveFrame (some (Envelope.received id msg)) =
      s.rt.enter none (s.rt.client.dispatchPush s.rt.connected (Envelope.received id msg)) false := by
  have hreceive := receiveFrame_push (s := s) hcid
  rw [RtState.step] at hreceive
  split at hreceive
  · rw [← Option.some.inj hreceive, RtState.receive, NRtClient.dispatchMessage,
      if_pos (show (Envelope.received id msg).cid = "" from hcid)]
  · cases hreceive

theorem answeredBy_of_inFlight (hi : s.rt.Inv) {q : Nat} (hq : (q, msg.cid) ∈ s.rt.inFlight) :
    answeredBy s.rt (Envelope.received id msg) = some q := by
  obtain ⟨k, hk, ⟨ctx, hctx, hrequest⟩, -⟩ := hi.sent q msg.cid hq
  have hcid : (Envelope.received id msg).cid = toString k := hk
  have hne := NRtClient.toString_ne_empty k
  simp only [answeredBy, hcid, hne, if_false, stoi_toString, hctx, Option.map_some, hrequest]

/-- A frame with the cid of a request in flight answers it. -/
theorem receiveFrame_answer (hi : s.rt.Inv) {q : Nat} (hq : (q, msg.cid) ∈ s.rt.inFlight) :
    s.rt.step (.answer q (Envelope.received id msg)) =
      some (s.receiveFrame (some (Envelope.received id msg))) := by
  have horigin := answeredBy_of_inFlight hi hq
  have hfind : s.rt.inFlight.find? (fun p => p.1 == q) = some (q, msg.cid) := by
    cases hf : s.rt.inFlight.find? fun p => p.1 == q with
    | none =>
      have hno := List.find?_eq_none.1 hf (q, msg.cid) hq
      exact absurd (beq_self_eq_true q) hno
    | some p =>
      have hp : p.1 = q := by simpa using List.find?_some hf
      rw [List.inj_on_of_nodup_map hi.once (List.mem_of_find?_eq_some hf) hq hp]
  have hfilter : (s.rt.inFlight.filter fun p => some p.1 != some q) =
      s.rt.inFlight.filter fun p => p.1 != q := rfl
  rw [RtState.step, hfind, RtSession.receiveFrame, Option.bind_some, horigin, hfilter]
  rfl

end

end NakamaCpp.RtApi
