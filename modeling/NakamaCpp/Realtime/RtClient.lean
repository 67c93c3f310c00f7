import NakamaCpp.Lib.Decimal

/-!
# The realtime client: request table, sending, dispatch of incoming frames

Model of src/realtime/NRtClient.cpp.  The pending requests are
`_reqContexts : std::map<int32_t, unique_ptr<RtRequestContext>>`, keyed by the
cid that `createReqContext` takes from `_nextCid`.  A user callback is never run
here: `onTransportMessage` and `reqInternalError` return a `Dispatch`, the calls
to make and the entry to erase once they have returned, so that a caller can put
any callback behaviour in between (`RtRun.lean`) or none (`receive`).

`onTransportMessage` reads the cid with `std::stoi`.  `receive_exact_iff` says
for which frames the dispatch is the intended one: the entry whose decimal cid
*is* the received string is answered, and only that entry goes.
-/

namespace NakamaCpp.Realtime

open CppStd Std

/-! ## Data -/

abbrev NBytes := ByteArray
abbrev NStringMap := ExtTreeMap String String

/-- `Envelope::MessageCase` (realtime.pb.h). -/
inductive MessageCase
  | channel | channelJoin | channelLeave | channelMessage | channelMessageAck | channelMessageSend
  | channelMessageUpdate | channelMessageRemove | channelPresenceEvent | error | match_ | matchCreate
  | matchData | matchDataSend | matchJoin | matchLeave | matchPresenceEvent | matchmakerAdd
  | matchmakerMatched | matchmakerRemove | matchmakerTicket | notifications | rpc | status
  | statusFollow | statusPresenceEvent | statusUnfollow | statusUpdate | streamData
  | streamPresenceEvent | ping | pong | notSet
deriving DecidableEq, Repr

/-- `RtErrorCode`: a server error carries any code the server sends. -/
abbrev RtErrorCode := Int32

namespace RtErrorCode

def connectError : RtErrorCode := -1
def transportError : RtErrorCode := -2

end RtErrorCode

structure NRtError where
  code : RtErrorCode
  message : String
  context : NStringMap := ∅

/-- `::nakama::realtime::Envelope`: the cid and the set member of the oneof.
`error` is the content of an error envelope, `payload` that of any other. -/
structure Envelope (π : Type) where
  cid : String := ""
  messageCase : MessageCase
  error : NRtError := ⟨0, "", ∅⟩
  payload : π

def Envelope.hasError {π : Type} (msg : Envelope π) : Bool := msg.messageCase == .error

/-- Methods of `NRtClientListenerInterface`, with what they are given. -/
inductive ListenerCall (π : Type)
  | onConnect
  | onDisconnect
  | onError (error : NRtError)
  | onChannelMessage (message : π)
  | onChannelPresence (event : π)
  | onMatchData (data : π)
  | onMatchPresence (event : π)
  | onMatchmakerMatched (matched : π)
  | onNotifications (list : π)
  | onStatusPresence (event : π)
  | onStreamData (data : π)
  | onStreamPresence (event : π)

/-- A call into user code: a listener method, or a callback of the realtime
operation number `request`. -/
inductive UserCall (π : Type)
  | listener (call : ListenerCall π)
  | success (request : Nat) (msg : Envelope π)
  | error (request : Nat) (error : NRtError)

/-- `RtRequestContext`: which of the two `std::function`s are set, and the
operation they belong to. -/
structure RtRequestContext where
  request : Nat
  successCallback : Bool
  errorCallback : Bool
deriving DecidableEq, Repr

abbrev ReqTable := ExtTreeMap Int32 RtRequestContext

/-- The fields of `NRtClient` that requests and messages read and write. -/
structure NRtClient where
  /-- `_listener` is not null -/
  listener : Bool := false
  reqContexts : ReqTable := ∅
  nextCid : Int32 := 0

/-- What a message or a failure makes the client do: the user calls, in order,
and the entry of `_reqContexts` that is erased when they have returned. -/
structure Dispatch (π : Type) where
  calls : List (UserCall π)
  erase : Option Int32 := none

namespace NRtClient

variable {π : Type}

/-! ## Requests -/

/-- Whether `createReqContext` resets `_nextCid` first. -/
def resets (c : NRtClient) : Bool := c.reqContexts.isEmpty && decide (9 < c.nextCid)

/-- The reset of `_nextCid` at the top of `createReqContext`. -/
def resetCid (c : NRtClient) : NRtClient := if c.resets then { c with nextCid := 0 } else c

@[simp] theorem resetCid_reqContexts (c : NRtClient) : c.resetCid.reqContexts = c.reqContexts := by
  unfold resetCid
  split <;> rfl

@[simp] theorem resetCid_listener (c : NRtClient) : c.resetCid.listener = c.listener := by
  unfold resetCid
  split <;> rfl

/-- `createReqContext`: the client afterwards and the cid given to the message.
`emplace` keeps an entry that is already there. -/
def createReqContext (c : NRtClient) (ctx : RtRequestContext) : NRtClient × Int32 :=
  let c := c.resetCid
  let cid := c.nextCid
  ({ c with nextCid := c.nextCid + 1, reqContexts := c.reqContexts.insertIfNew cid ctx }, cid)

/-- `_reqContexts.erase(it)`, when there is an entry to erase. -/
def eraseReq (c : NRtClient) : Option Int32 → NRtClient
  | some cid => { c with reqContexts := c.reqContexts.erase cid }
  | none => c

/-- `reqInternalError`. -/
def reqInternalError (c : NRtClient) (cid : Int32) (error : NRtError) : Dispatch π :=
  match c.reqContexts[cid]? with
  | some ctx =>
    { calls :=
        if ctx.errorCallback then [.error ctx.request error]
        else if c.listener then [.listener (.onError error)]
        else []
      erase := some cid }
  | none => { calls := [] }

/-- A local failure of `send`: what is passed to `reqInternalError`, and whether
`_transport->disconnect()` follows. -/
structure SendFailure where
  cid : Int32
  error : NRtError
  disconnects : Bool

/-- `send` of a message with the given cid, where `serializes` and `sends` are the
results of `_protocol->serialize` and `_transport->send`.  The cid is only read
(and can only throw) on a failure. -/
def send (connected serializes sends : Bool) (cid : String) : Except StdError (Option SendFailure) :=
  if connected then
    if serializes then
      if sends then .ok none
      else do
        return some ⟨← stoi cid, ⟨RtErrorCode.transportError, "Send message failed", ∅⟩, true⟩
    else do
      return some ⟨← stoi cid, ⟨RtErrorCode.transportError, "Serialize message failed", ∅⟩, false⟩
  else do
    return some ⟨← stoi cid, ⟨RtErrorCode.connectError, "Not connected", ∅⟩, false⟩

/-! ## Incoming frames -/

/-- `onTransportError`. -/
def onTransportError (c : NRtClient) (connected : Bool) (description : String) : Dispatch π :=
  let error : NRtError :=
    { code := if connected then RtErrorCode.transportError else RtErrorCode.connectError
      message := description }
  { calls := if c.listener then [.listener (.onError error)] else [] }

/-- The listener method for a push message, by the set member of the oneof. -/
def pushCall (msg : Envelope π) : Option (ListenerCall π) :=
  match msg.messageCase with
  | .channelMessage => some (.onChannelMessage msg.payload)
  | .channelPresenceEvent => some (.onChannelPresence msg.payload)
  | .matchData => some (.onMatchData msg.payload)
  | .matchPresenceEvent => some (.onMatchPresence msg.payload)
  | .matchmakerMatched => some (.onMatchmakerMatched msg.payload)
  | .notifications => some (.onNotifications msg.payload)
  | .statusPresenceEvent => some (.onStatusPresence msg.payload)
  | .streamData => some (.onStreamData msg.payload)
  | .streamPresenceEvent => some (.onStreamPresence msg.payload)
  | _ => none

/-- The calls made for a message without cid. -/
def dispatchPush (c : NRtClient) (connected : Bool) (msg : Envelope π) : Dispatch π :=
  if c.listener then
    if msg.hasError then { calls := [.listener (.onError msg.error)] }
    else
      match pushCall msg with
      | some call => { calls := [.listener call] }
      | none => c.onTransportError connected "Unknown message received"
  else { calls := [] }

/-- The calls made for the answer to a pending request. -/
def answerCalls (c : NRtClient) (ctx : RtRequestContext) (msg : Envelope π) : List (UserCall π) :=
  if msg.hasError then
    if ctx.errorCallback then [.error ctx.request msg.error]
    else if c.listener then [.listener (.onError msg.error)]
    else []
  else if ctx.successCallback then [.success ctx.request msg]
  else []

/-- `onTransportMessage` of a frame that parsed to `parsed`. -/
def dispatchMessage (c : NRtClient) (connected : Bool) (parsed : Option (Envelope π)) :
    Except StdError (Dispatch π) :=
  match parsed with
  | none => .ok (c.onTransportError connected "parse message failed")
  | some msg =>
    if msg.cid = "" then .ok (c.dispatchPush connected msg)
    else do
      let cid ← stoi msg.cid
      match c.reqContexts[cid]? with
      | some ctx => return { calls := c.answerCalls ctx msg, erase := some cid }
      | none => return c.onTransportError connected ("request context not found. cid: " ++ msg.cid)

/-- `onTransportMessage(data)`, where `parse` is the protocol's. -/
def onTransportMessage (c : NRtClient) (connected : Bool) (parse : NBytes → Option (Envelope π))
    (data : NBytes) : Except StdError (Dispatch π) :=
  c.dispatchMessage connected (parse data)

/-- `onTransportMessage` run to its end with callbacks that return normally and
issue no requests: the calls made and the client afterwards. -/
def receive (c : NRtClient) (connected : Bool) (parse : NBytes → Option (Envelope π))
    (data : NBytes) : Except StdError (List (UserCall π) × NRtClient) := do
  let d ← c.onTransportMessage connected parse data
  return (d.calls, c.eraseReq d.erase)

/-! ## Exactness of the dispatch -/

/-- `onTransportError` tells the listener, once, when there is one. -/
def ReportsError (c : NRtClient) (calls : List (UserCall π)) : Prop :=
  if c.listener then ∃ e, calls = [.listener (.onError e)] else calls = []

/-- What the dispatch of one frame is meant to do: at most one user call, the
right one, and no entry removed but the one whose decimal cid is the frame's. -/
structure Exact (c : NRtClient) (parsed : Option (Envelope π)) (calls : List (UserCall π))
    (c' : NRtClient) : Prop where
  atMostOne : calls.length ≤ 1
  push : ∀ msg call, parsed = some msg → msg.cid = "" → pushCall msg = some call →
    calls = if c.listener then [.listener call] else []
  answered : ∀ msg (cid : Int32) ctx, parsed = some msg → msg.cid = toString cid →
    c.reqContexts[cid]? = some ctx → msg.hasError = false →
    calls = if ctx.successCallback then [.success ctx.request msg] else []
  refused : ∀ msg (cid : Int32) ctx, parsed = some msg → msg.cid = toString cid →
    c.reqContexts[cid]? = some ctx → msg.hasError = true →
    calls = if ctx.errorCallback then [.error ctx.request msg.error]
      else if c.listener then [.listener (.onError msg.error)] else []
  unparsed : parsed = none → ReportsError c calls
  notPush : ∀ msg, parsed = some msg → msg.cid = "" → pushCall msg = none → ReportsError c calls
  unknown : ∀ msg, parsed = some msg → msg.cid ≠ "" →
    (∀ cid : Int32, msg.cid = toString cid → c.reqContexts[cid]? = none) → ReportsError c calls
  frame : ∀ cid : Int32, c'.reqContexts[cid]? =
    if ∃ msg, parsed = some msg ∧ msg.cid = toString cid then none else c.reqContexts[cid]?
  rest : c'.listener = c.listener ∧ c'.nextCid = c.nextCid

/-- The cid of the frame is one that `std::stoi` accepts, and it is the decimal
form of the entry that `std::stoi` leads to, if there is one. -/
def CidReadable (c : NRtClient) (parsed : Option (Envelope π)) : Prop :=
  ∀ msg, parsed = some msg → msg.cid ≠ "" →
    ∃ cid, stoi msg.cid = .ok cid ∧ (cid ∈ c.reqContexts → msg.cid = toString cid)

theorem toString_ne_empty (cid : Int32) : toString cid ≠ "" := by
  intro h
  have hs := stoi_toString cid
  have he : stoi "" = .error .invalidArgument := by decide
  rw [h, he] at hs
  cases hs

theorem reportsError_onTransportError (c : NRtClient) (connected : Bool) (description : String) :
    ReportsError c (c.onTransportError connected description : Dispatch π).calls := by
  unfold ReportsError onTransportError
  split <;> simp_all

theorem reportsError_length {c : NRtClient} {calls : List (UserCall π)} (h : ReportsError c calls) :
    calls.length ≤ 1 := by
  unfold ReportsError at h
  split at h
  · obtain ⟨e, rfl⟩ := h; simp
  · simp [h]

theorem answerCalls_length (c : NRtClient) (ctx : RtRequestContext) (msg : Envelope π) :
    (c.answerCalls ctx msg).length ≤ 1 := by
  unfold answerCalls
  split_ifs <;> simp

/-- A frame without cid: the matching method, or one error report. -/
theorem dispatchPush_calls (c : NRtClient) (connected : Bool) (msg : Envelope π) :
    (∀ call, pushCall msg = some call →
      (c.dispatchPush connected msg).calls = if c.listener then [.listener call] else []) ∧
    (pushCall msg = none → ReportsError c (c.dispatchPush connected msg).calls) ∧
    (c.dispatchPush connected msg).erase = none := by
  have herr : msg.hasError = true → pushCall msg = none := by
    intro h
    have hc : msg.messageCase = .error := by simpa [Envelope.hasError] using h
    simp [pushCall, hc]
  unfold dispatchPush
  by_cases hl : c.listener = true
  · by_cases he : msg.hasError = true
    · simp [hl, he, herr he, ReportsError]
    · cases hp : pushCall msg with
      | some call => simp [hl, he]
      | none =>
        simp only [hl, he, if_true]
        exact ⟨by simp, fun _ => reportsError_onTransportError c connected _, rfl⟩
  · simp [hl, ReportsError]

/-- A frame that is no answer, and makes `calls` without erasing, is handled exactly
when the calls are right. -/
theorem exact_of_no_answer {c : NRtClient} {parsed : Option (Envelope π)}
    {calls : List (UserCall π)}
    (hnone : ∀ cid : Int32, ∀ msg, parsed = some msg → msg.cid = toString cid →
      c.reqContexts[cid]? = none)
    (hlen : calls.length ≤ 1)
    (hpush : ∀ msg call, parsed = some msg → msg.cid = "" → pushCall msg = some call →
      calls = if c.listener then [.listener call] else [])
    (herr : (∀ msg call, parsed = some msg → msg.cid = "" → pushCall msg ≠ some call) →
      ReportsError c calls) : Exact c parsed calls c where
  atMostOne := hlen
  push := hpush
  answered := by
    intro msg cid ctx hm hc hctx
    rw [hnone cid msg hm hc] at hctx
    cases hctx
  refused := by
    intro msg cid ctx hm hc hctx
    rw [hnone cid msg hm hc] at hctx
    cases hctx
  unparsed := by
    rintro rfl
    exact herr (by simp)
  notPush := by
    rintro msg rfl hcid hp
    refine herr fun m call hm _ hp' => ?_
    obtain rfl := Option.some.inj hm
    rw [hp] at hp'
    cases hp'
  unknown := by
    rintro msg rfl hcid _
    refine herr fun m call hm hc _ => ?_
    obtain rfl := Option.some.inj hm
    exact hcid hc
  frame := by
    intro cid
    split
    · next h =>
      obtain ⟨msg, hm, hc⟩ := h
      exact hnone cid msg hm hc
    · rfl
  rest := ⟨rfl, rfl⟩

/-- The answer of a pending request is handled exactly. -/
theorem exact_of_answer {c : NRtClient} {msg : Envelope π} {cid : Int32} {ctx : RtRequestContext}
    (hcid : msg.cid = toString cid) (hctx : c.reqContexts[cid]? = some ctx) :
    Exact c (some msg) (c.answerCalls ctx msg) (c.eraseReq (some cid)) where
  atMostOne := answerCalls_length c ctx msg
  push := by
    rintro m call hm he
    obtain rfl := Option.some.inj hm
    exact absurd (hcid.symm.trans he) (toString_ne_empty cid)
  answered := by
    rintro m k x hm hk hx he
    obtain rfl := Option.some.inj hm
    obtain rfl := toString_inj (hcid.symm.trans hk)
    obtain rfl := Option.some.inj (hctx.symm.trans hx)
    simp [answerCalls, he]
  refused := by
    rintro m k x hm hk hx he
    obtain rfl := Option.some.inj hm
    obtain rfl := toString_inj (hcid.symm.trans hk)
    obtain rfl := Option.some.inj (hctx.symm.trans hx)
    simp [answerCalls, he]
  unparsed := by simp
  notPush := by
    rintro m hm he
    obtain rfl := Option.some.inj hm
    exact absurd (hcid.symm.trans he) (toString_ne_empty cid)
  unknown := by
    rintro m hm _ hall
    obtain rfl := Option.some.inj hm
    rw [hall cid hcid] at hctx
    cases hctx
  frame := by
    intro k
    simp only [eraseReq, ExtTreeMap.getElem?_erase, Option.some.injEq, exists_eq_left', hcid]
    by_cases hk : cid = k
    · subst hk; simp
    · have hne : toString cid ≠ toString k := fun h => hk (toString_inj h)
      simp [hk, hne]
  rest := ⟨rfl, rfl⟩

/-- **Exact dispatch.**  A frame is handled as intended exactly when its cid is readable. -/
theorem receive_exact_iff (c : NRtClient) (connected : Bool) (parse : NBytes → Option (Envelope π))
    (data : NBytes) :
    (∃ calls c', c.receive connected parse data = .ok (calls, c') ∧
      Exact c (parse data) calls c') ↔ CidReadable c (parse data) := by
  unfold receive onTransportMessage
  generalize parse data = parsed
  constructor
  · rintro ⟨calls, c', hr, hex⟩ msg rfl hcid
    simp only [dispatchMessage, hcid, if_false] at hr
    cases hs : stoi msg.cid with
    | error e => rw [hs] at hr; cases hr
    | ok cid =>
      refine ⟨cid, rfl, fun hmem => ?_⟩
      -- the entry found was erased, so the frame condition makes it the named one
      cases hctx : c.reqContexts[cid]? with
      | none =>
        have := ExtTreeMap.mem_iff_isSome_getElem?.1 hmem
        rw [hctx] at this
        cases this
      | some ctx =>
        simp only [hs, hctx, pure, bind, Except.bind, Except.pure, Except.ok.injEq,
          Prod.mk.injEq] at hr
        have hf := hex.frame cid
        rw [← hr.2, hctx] at hf
        simp only [eraseReq, ExtTreeMap.getElem?_erase_self, Option.some.injEq,
          exists_eq_left'] at hf
        by_cases he : msg.cid = toString cid
        · exact he
        · simp [he] at hf
  · intro hread
    cases parsed with
    | none =>
      have he := reportsError_onTransportError (π := π) c connected "parse message failed"
      refine ⟨_, c, rfl, exact_of_no_answer ?_ (reportsError_length he) ?_ fun _ => he⟩
      · rintro _ _ ⟨⟩
      · rintro _ _ ⟨⟩
    | some msg =>
      by_cases hcid : msg.cid = ""
      · obtain ⟨hpush, herr, hno⟩ := dispatchPush_calls c connected msg
        refine ⟨(c.dispatchPush connected msg).calls, c, ?_, exact_of_no_answer ?_ ?_ ?_ ?_⟩
        · simp [dispatchMessage, hcid, bind, Except.bind, pure, Except.pure, hno, eraseReq]
        · rintro k m hm hk
          obtain rfl := Option.some.inj hm
          exact absurd (hk.symm.trans hcid) (toString_ne_empty k)
        · cases hp : pushCall msg with
          | some call => rw [hpush call hp]; split <;> simp
          | none => exact reportsError_length (herr hp)
        · rintro m call hm _ hp
          obtain rfl := Option.some.inj hm
          exact hpush call hp
        · intro hall
          refine herr ?_
          cases hp : pushCall msg with
          | some call => exact absurd hp (hall msg call rfl hcid)
          | none => rfl
      · obtain ⟨cid, hs, hmem⟩ := hread msg rfl hcid
        cases hctx : c.reqContexts[cid]? with
        | some ctx =>
          have hk := hmem (by simp [ExtTreeMap.mem_iff_isSome_getElem?, hctx])
          refine ⟨_, _, ?_, exact_of_answer hk hctx⟩
          simp [dispatchMessage, hcid, hs, hctx, bind, Except.bind, pure, Except.pure]
        | none =>
          have he := reportsError_onTransportError (π := π) c connected
            ("request context not found. cid: " ++ msg.cid)
          refine ⟨_, c, ?_, exact_of_no_answer ?_ (reportsError_length he) ?_ fun _ => he⟩
          · simp [dispatchMessage, hcid, hs, hctx, bind, Except.bind, pure, Except.pure, eraseReq,
              onTransportError]
          · rintro k m hm hk
            obtain rfl := Option.some.inj hm
            rw [hk, stoi_toString] at hs
            rw [Except.ok.inj hs]
            exact hctx
          · rintro m call hm he'
            obtain rfl := Option.some.inj hm
            exact absurd he' hcid

/-- A client with one pending request, number 0, under cid 5. -/
def clientWithFive : NRtClient :=
  { listener := true, reqContexts := (∅ : ReqTable).insert 5 ⟨0, true, true⟩, nextCid := 6 }

/-- An answer frame with the given cid. -/
def rpcAnswer (cid : String) : Envelope Unit := { cid, messageCase := .rpc, payload := () }

/-- Not every frame is handled exactly: a cid that is no number makes `std::stoi`
throw, and a cid that only begins with one takes another request's entry. -/
theorem receive_not_exact :
    ¬ (∃ calls c', clientWithFive.receive true (fun _ => some (rpcAnswer "abc")) ByteArray.empty =
        .ok (calls, c') ∧ Exact clientWithFive (some (rpcAnswer "abc")) calls c') ∧
    ¬ (∃ calls c', clientWithFive.receive true (fun _ => some (rpcAnswer "5 apples"))
        ByteArray.empty = .ok (calls, c') ∧
        Exact clientWithFive (some (rpcAnswer "5 apples")) calls c') := by
  constructor
  · rintro ⟨calls, c', hr, -⟩
    have hs : stoi "abc" = .error .invalidArgument := by decide
    simp [receive, onTransportMessage, dispatchMessage, rpcAnswer, hs, bind, Except.bind] at hr
  · rintro ⟨calls, c', hr, hex⟩
    have hs : stoi "5 apples" = .ok 5 := by decide
    have he : clientWithFive.reqContexts[(5 : Int32)]? = some ⟨0, true, true⟩ := by
      simp [clientWithFive]
    simp [receive, onTransportMessage, dispatchMessage, rpcAnswer, hs, he, bind, Except.bind, pure,
      Except.pure] at hr
    have hf := hex.frame 5
    have h5 : "5 apples" ≠ toString (5 : Int32) := by decide
    rw [← hr.2, he] at hf
    simp [eraseReq, rpcAnswer, h5] at hf

end NRtClient

end NakamaCpp.Realtime
