import NakamaCpp.CApi.RtWrapper
import NakamaCpp.Rest.GrpcRun
import NakamaCpp.Realtime.RtRun

/-!
# Errors without a callback, through the wrappers

`reqError` of the wrapped clients falls back to the default error callback, or to the listener,
when a request has no error callback.  `NClientWrapper` and `NRtClientWrapper` give the C
interface `reqErrorStatic` whether the request has an error callback or not; only `getAccount`
passes null when it has none.  An error that `reqErrorStatic` has no callback for goes to nobody.

    the request has no error callback and fails
      →  (the error goes where it would without the wrapper ↔ KeepsDefault)    (default_error_iff)
-/

namespace NakamaCpp.CApi

open CppStd Rest Realtime CInterop

/-! ## How a request ends -/

/-- What `onResponse` of `RestClient`, or of `GrpcClient`, gets for a request; or the operation
finds that it has no session. -/
inductive Outcome
  | refused
  | response (resp : Http.NHttpResponse)
  | event (ev : GrpcEvent)

namespace Outcome

/-- The calls that the client makes for request `q`. -/
def calls (json : JsonLib) (defaultErrorCallback : Bool) (q : Nat) (r : ClientRequest) :
    Outcome → Option (List ClientCall)
  | .refused => some (refuse q r)
  | .response resp =>
    RestClient.responseCalls json defaultErrorCallback q
      ⟨r.successCallback, r.errorCallback, r.op.responseType⟩ resp
  | .event ev =>
    GrpcClient.onResponse json defaultErrorCallback q
      ⟨r.successCallback, r.errorCallback, r.op.responseType⟩ ev

/-- The status is that of a success. -/
def ok : Outcome → Bool
  | .refused => false
  | .response resp => resp.statusCode == 200
  | .event ev => ev.ok && ev.errorCode == 0

/-- The request has failed: with a status, or with a body that cannot be read. -/
def Fails (json : JsonLib) (r : ClientRequest) : Outcome → Prop
  | .refused => r.op.noSession = true
  | .response resp => resp.statusCode = 200 → ¬ RestClient.Parses json r.op.responseType resp.body
  | .event ev => ev.ok = true → ev.errorCode ≠ 0

/-- The error that `onResponse` makes of a failure. -/
def error (json : JsonLib) (r : ClientRequest) : Outcome → Option NError
  | .refused => none
  | .response resp =>
    if resp.statusCode = 200 then
      (r.op.responseType.bind fun type => json.toMessage type resp.body).map fun status =>
        { message := "Parse JSON failed. HTTP body: " ++ resp.body ++ " error: " ++ status
          code := .internalError }
    else (RestClient.statusError json resp).map (RestClient.withMessage resp)
  | .event ev =>
    if ev.ok then some (GrpcClient.statusError ev)
    else some
      { message := "Communication failed. Please check connection.", code := .connectionError }

end Outcome

/-- A realtime request fails in `send`, or is answered. -/
inductive RtOutcome (π : Type)
  | sending (isConnected serializes sends : Bool)
  | answer (msg : Envelope π)

/-- Whether `createReqContext` is called. -/
def RtOp.hasContext : RtOp → Bool
  | .sendMatchData .. => false
  | _ => true

/-- The calls that `NRtClient` makes for an operation whose context, if it has one, is under
`cid`. -/
def RtOutcome.calls {π : Type} (c : NRtClient) (op : RtOp) (cid : Int32) :
    RtOutcome π → Except StdError (List (UserCall π))
  | .sending isConnected serializes sends => do
    let cid := if op.hasContext then toString cid else ""
    match ← NRtClient.send isConnected serializes sends cid with
    | none => return []
    | some failure => return (c.reqInternalError failure.cid failure.error).calls
  | .answer msg =>
    if op.hasContext then do
      return (← c.dispatchMessage true (some { msg with cid := toString cid })).calls
    else .ok []

/-! ## The wrappers -/

/-- `_curReqId` and `_reqErrorCallbacks` of either wrapper; a callback is known by its request. -/
structure ReqCallbacks where
  curReqId : UInt64 := 0
  reqErrorCallbacks : Std.ExtTreeMap UInt64 Nat := ∅

namespace ReqCallbacks

/-- `getNextReqId`, which leaves out `INVALID_REQ_ID`. -/
def getNextReqId (c : ReqCallbacks) : UInt64 :=
  if c.curReqId + 1 = 0 then c.curReqId + 2 else c.curReqId + 1

/-- The first lines of every operation: the wrapper afterwards and the request data. -/
def register (c : ReqCallbacks) (request : Nat) (successCallback errorCallback : Bool) :
    ReqCallbacks × UInt64 :=
  if successCallback || errorCallback then
    let reqId := c.getNextReqId
    ({ curReqId := reqId
       reqErrorCallbacks :=
        if errorCallback then c.reqErrorCallbacks.insertIfNew reqId request
        else c.reqErrorCallbacks }, reqId)
  else (c, 0)

/-- `reqError`: the request whose callback is called. -/
def reqError (c : ReqCallbacks) (reqData : UInt64) : Option Nat :=
  if reqData = 0 then none else c.reqErrorCallbacks[reqData]?

end ReqCallbacks

/-- What an `NClientWrapper` has for errors. -/
structure NClientWrapper where
  callbacks : ReqCallbacks := {}
  /-- `_defaultErrorCallback` is not null -/
  defaultErrorCallback : Bool := false
  /-- that of the wrapped client is not null, and is `OnDefaultErrorStatic` -/
  wrappedDefault : Bool := false
  registered : defaultErrorCallback = true → wrappedDefault = true := by decide

namespace NClientWrapper

def setErrorCallback (w : NClientWrapper) (errorCallback : Bool) : NClientWrapper :=
  { w with
    defaultErrorCallback := errorCallback
    wrappedDefault := true
    registered := fun _ => rfl }

/-- The request as the wrapped client gets it: the C function has a success callback, and an
error callback if the wrapper has passed one. -/
def wrappedRequest (r : ClientRequest) : ClientRequest where
  op := r.op
  successCallback := true
  errorCallback :=
    match r.op with
    | .getAccount _ => r.errorCallback
    | _ => true

/-- `reqErrorStatic`, `OnDefaultErrorStatic`, and the success callbacks. -/
def deliver (w : NClientWrapper) (reqData : UInt64) (successCallback : Bool) :
    ClientCall → Option (List ClientCall)
  | .success q => some (if successCallback then [.success q] else [])
  | .error _ error =>
    match w.callbacks.reqError reqData with
    | none => some []
    | some request => (assignNError (.assign error)).map fun error => [.error request error]
  | .defaultError error =>
    if w.defaultErrorCallback then
      (assignNError (.assign error)).map fun error => [.defaultError error]
    else some []

/-- What the wrapped client calls at the end of the request.  It never gets one without a
session: `getCSession` dies of it. -/
def wrappedCalls (json : JsonLib) (w : NClientWrapper) (q : Nat) (r : ClientRequest) :
    Outcome → Option (List ClientCall)
  | .refused => none
  | outcome => outcome.calls json w.wrappedDefault q (wrappedRequest r)

/-- What the user's callbacks get at the end of a request with the given request data. -/
def calls (json : JsonLib) (w : NClientWrapper) (reqData : UInt64) (q : Nat) (r : ClientRequest)
    (outcome : Outcome) : Option (List ClientCall) := do
  let calls ← w.wrappedCalls json q r outcome
  return (← calls.mapM (w.deliver reqData r.successCallback)).flatten

end NClientWrapper

/-- Of an `NRtClientWrapper`, the calls that its user gets for one that the wrapped client makes;
listener calls go to its listener. -/
def rtDeliver {π : Type} (callbacks : ReqCallbacks) (reqData : UInt64) (successCallback : Bool) :
    UserCall π → Option (List (UserCall π))
  | .listener call => some [.listener call]
  | .success q msg => some (if successCallback then [.success q msg] else [])
  | .error _ error =>
    match callbacks.reqError reqData with
    | none => some []
    | some request => (assignNRtError (.assign error)).map fun error => [.error request error]

/-- The context that a request of the wrapper has in the wrapped client. -/
def wrappedContext (ctx : RtRequestContext) : RtRequestContext :=
  { ctx with successCallback := true, errorCallback := true }

/-- What the user gets at the end of a realtime operation. -/
def rtCalls {π : Type} (callbacks : ReqCallbacks) (reqData : UInt64) (successCallback : Bool)
    (c : NRtClient) (op : RtOp) (cid : Int32) (outcome : RtOutcome π) :
    Except StdError (Option (List (UserCall π))) :=
  (outcome.calls c op cid).map fun calls =>
    (calls.mapM (rtDeliver callbacks reqData successCallback)).map List.flatten

/-- The operation is `getAccount`, and the error of `onResponse` has no NUL; without a success
callback it is not one of reading the body. -/
def KeepsDefault (json : JsonLib) (r : ClientRequest) (outcome : Outcome) : Prop :=
  (∃ session, r.op = .getAccount session) ∧
  (∃ error, outcome.error json r = some error ∧ NulFree error.message) ∧
  (r.successCallback = true ∨ outcome.ok = false)

/-! ## The wrapped client -/

section
variable {json : JsonLib} {defaultErrorCallback : Bool} {q : Nat} {r : ClientRequest}
  {outcome : Outcome}

/-- A failure is told whether there is a success callback or not, unless it is one of reading
the body: without a success callback nobody reads it. -/
theorem Outcome.calls_of_fails (hne : outcome ≠ .refused) (h : outcome.Fails json r) :
    outcome.calls json defaultErrorCallback q r =
      if r.successCallback || !outcome.ok then
        (outcome.error json r).map (reqError (own q r.errorCallback) defaultErrorCallback)
      else some [] := by
  cases outcome with
  | refused => exact absurd rfl hne
  | response resp =>
    have h : resp.statusCode = 200 → ¬ RestClient.Parses json r.op.responseType resp.body := h
    simp only [Outcome.calls, RestClient.responseCalls, Outcome.ok, Outcome.error]
    by_cases hstatus : resp.statusCode = 200
    · obtain ⟨status, hbody⟩ : ∃ status,
          (r.op.responseType.bind fun type => json.toMessage type resp.body) = some status := by
        apply Option.ne_none_iff_exists'.1
        intro hnone
        exact h hstatus ((RestClient.parses_iff json _ _).2 hnone)
      rw [hbody]
      simp [hstatus]
    · simp [hstatus]
      rfl
  | event ev =>
    have h : ev.ok = true → ev.errorCode ≠ 0 := h
    simp only [Outcome.calls, GrpcClient.onResponse, Outcome.ok, Outcome.error]
    by_cases hok : ev.ok = true
    · simp [hok, h hok]
    · simp [hok]

end

/-! ## The wrapper of the client -/

namespace NClientWrapper

variable {json : JsonLib} {w : NClientWrapper} {reqData : UInt64} {q : Nat} {r : ClientRequest}
  {outcome : Outcome}

theorem calls_of_single {call : ClientCall}
    (h : w.wrappedCalls json q r outcome = some [call]) :
    w.calls json reqData q r outcome = w.deliver reqData r.successCallback call := by
  unfold calls
  rw [h]
  cases hcalls : w.deliver reqData r.successCallback call with
  | none => simp [hcalls]
  | some calls => simp [hcalls]

theorem deliver_default (hdefault : w.defaultErrorCallback = true) (error : NError) (set : Bool) :
    w.deliver reqData set (.defaultError error) =
      some [.defaultError { error with message := (cStr error.message).text }] := by
  show (if w.defaultErrorCallback then _ else _) = _
  rw [if_pos hdefault, assignNError_eq]
  rfl

/-- `reqErrorStatic` never gets to the default callback. -/
theorem deliver_error_ne (q : Nat) (error error' : NError) (set : Bool) :
    w.deliver reqData set (.error q error) ≠ some [.defaultError error'] := by
  unfold deliver
  dsimp only
  split
  · intro h
    cases h
  · rw [assignNError_eq]
    intro h
    cases h

/-- With `getAccount` the wrapped client knows whether there is an error callback. -/
theorem wrappedRequest_getAccount {session : NSession} (hop : r.op = .getAccount session) :
    wrappedRequest r = { r with successCallback := true } := by
  cases r with
  | mk op successCallback errorCallback =>
    obtain rfl : op = .getAccount session := hop
    rfl

/-- Without, it takes `reqErrorStatic` for one. -/
theorem wrappedRequest_errorCallback (hop : ¬ ∃ session, r.op = .getAccount session) :
    (wrappedRequest r).errorCallback = true := by
  unfold wrappedRequest
  dsimp only
  split
  · next session h => exact absurd ⟨session, h⟩ hop
  · rfl

theorem wrappedCalls_of_ne (hne : outcome ≠ .refused) :
    w.wrappedCalls json q r outcome = outcome.calls json w.wrappedDefault q (wrappedRequest r) := by
  cases outcome with
  | refused => exact absurd rfl hne
  | response resp => rfl
  | event ev => rfl

/-- The default callback gets the error of a `getAccount`, as far as C texts carry it. -/
theorem calls_getAccount {session : NSession} (hdefault : w.defaultErrorCallback = true)
    (hop : r.op = .getAccount session) (herror : r.errorCallback = false) (hne : outcome ≠ .refused)
    (h : outcome.Fails json r) :
    w.calls json reqData q r outcome =
      (outcome.error json r).map fun error =>
        [.defaultError { error with message := (cStr error.message).text }] := by
  have hfails : outcome.Fails json { r with successCallback := true } := by
    cases outcome <;> exact h
  have herr : outcome.error json { r with successCallback := true } = outcome.error json r := by
    cases outcome <;> rfl
  have hwrapped : w.wrappedCalls json q r outcome =
      (outcome.error json r).map fun error => [.defaultError error] := by
    rw [wrappedCalls_of_ne hne, wrappedRequest_getAccount hop, Outcome.calls_of_fails hne hfails,
      w.registered hdefault, herr, herror]
    rfl
  cases he : outcome.error json r with
  | none =>
    rw [he] at hwrapped
    unfold calls
    rw [hwrapped]
    rfl
  | some error =>
    rw [he] at hwrapped
    rw [calls_of_single hwrapped, deliver_default hdefault]
    rfl

/-- It gets no error of another operation. -/
theorem calls_ne_default (hop : ¬ ∃ session, r.op = .getAccount session)
    (h : outcome.Fails json r) (error : NError) :
    w.calls json reqData q r outcome ≠ some [.defaultError error] := by
  by_cases hne : outcome = .refused
  · rw [hne]
    intro hc
    cases hc
  · have hfails : outcome.Fails json (wrappedRequest r) := by
      cases outcome <;> exact h
    have hwrapped : w.wrappedCalls json q r outcome =
        (outcome.error json (wrappedRequest r)).map fun error => [.error q error] := by
      rw [wrappedCalls_of_ne hne, Outcome.calls_of_fails hne hfails, wrappedRequest_errorCallback hop]
      rfl
    cases he : outcome.error json (wrappedRequest r) with
    | none =>
      rw [he] at hwrapped
      unfold calls
      rw [hwrapped]
      intro hc
      cases hc
    | some error' =>
      rw [he] at hwrapped
      rw [calls_of_single hwrapped]
      exact deliver_error_ne q error' error r.successCallback

theorem default_iff (hdefault : w.defaultErrorCallback = true) (herror : r.errorCallback = false)
    (h : outcome.Fails json r) :
    (∃ error, w.calls json reqData q r outcome = some [.defaultError error] ∧
      outcome.calls json true q r = some [.defaultError error]) ↔ KeepsDefault json r outcome := by
  by_cases hop : ∃ session, r.op = .getAccount session
  · obtain ⟨session, hop⟩ := hop
    have hne : outcome ≠ .refused := by
      rintro rfl
      have h : r.op.noSession = true := h
      rw [hop] at h
      cases h
    have hdirect : outcome.calls json true q r =
        if r.successCallback || !outcome.ok then
          (outcome.error json r).map fun error => [.defaultError error]
        else some [] := by
      rw [Outcome.calls_of_fails hne h, herror]
      rfl
    rw [calls_getAccount hdefault hop herror hne h, hdirect]
    constructor
    · rintro ⟨error, hcalls, htold⟩
      obtain ⟨error', herr, hcalls⟩ := Option.map_eq_some_iff.1 hcalls
      split at htold
      · next hread =>
        rw [herr] at htold
        obtain rfl : error' = error := by simpa using htold
        refine ⟨⟨session, hop⟩, ⟨error', herr, ?_⟩, by simpa using hread⟩
        apply CStr.text_ofString_iff.1
        exact congrArg NError.message (ClientCall.defaultError.inj (List.singleton_inj.1 hcalls))
      · cases htold
    · rintro ⟨-, ⟨error, herr, hnul⟩, hread⟩
      refine ⟨error, ?_, ?_⟩
      · rw [herr, Option.map_some, CStr.text_ofString_iff.2 hnul]
      · rw [if_pos (by simpa using hread), herr]
        rfl
  · apply iff_of_false
    · rintro ⟨error, hcalls, -⟩
      exact calls_ne_default hop h error hcalls
    · exact fun h => hop h.1

end NClientWrapper

/-! ## The wrapper of the realtime client -/

section
variable {π : Type} {c : NRtClient} {op : RtOp} {cid : Int32} {ctx : RtRequestContext}

theorem reqInternalError_calls {error : NRtError} (h : c.reqContexts[cid]? = some (wrappedContext ctx)) :
    (c.reqInternalError cid error : Dispatch π).calls = [.error ctx.request error] := by
  unfold NRtClient.reqInternalError
  rw [h]
  rfl

theorem answerCalls_wrappedContext (msg : Envelope π) :
    c.answerCalls (wrappedContext ctx) msg =
      if msg.hasError then [.error ctx.request msg.error] else [.success ctx.request msg] := rfl

theorem RtOutcome.calls_answer (hop : op.hasContext = true) (h : c.reqContexts[cid]? = some ctx)
    (msg : Envelope π) :
    (RtOutcome.answer msg).calls c op cid =
      .ok (c.answerCalls ctx { msg with cid := toString cid }) := by
  simp only [RtOutcome.calls, hop, if_true, NRtClient.dispatchMessage, NRtClient.toString_ne_empty,
    if_false, stoi_toString]
  simp only [bind, Except.bind, h]
  rfl

/-- What the wrapped realtime client calls for an operation is never its listener. -/
theorem RtOutcome.calls_cases {outcome : RtOutcome π} {calls : List (UserCall π)}
    (hctx : op.hasContext = true → c.reqContexts[cid]? = some (wrappedContext ctx))
    (h : outcome.calls c op cid = .ok calls) :
    calls = [] ∨ (∃ request msg, calls = [.success request msg]) ∨
      ∃ request error, calls = [.error request error] := by
  cases hop : op.hasContext with
  | false =>
    cases outcome with
    | sending isConnected serializes sends =>
      simp only [RtOutcome.calls, hop, Bool.false_eq_true, if_false] at h
      rcases RtState.send_empty isConnected serializes sends with hs | hs
      · rw [hs] at h
        exact .inl (Except.ok.inj h).symm
      · rw [hs] at h
        cases h
    | answer msg =>
      simp only [RtOutcome.calls, hop, Bool.false_eq_true, if_false] at h
      exact .inl (Except.ok.inj h).symm
  | true =>
    have hctx := hctx hop
    cases outcome with
    | sending isConnected serializes sends =>
      simp only [RtOutcome.calls, hop, if_true] at h
      rcases RtState.send_toString isConnected serializes sends cid with hs | ⟨error, disconnects, hs⟩
      · rw [hs] at h
        exact .inl (Except.ok.inj h).symm
      · rw [hs] at h
        obtain rfl := Except.ok.inj h
        exact .inr (.inr ⟨ctx.request, error, reqInternalError_calls hctx⟩)
    | answer msg =>
      rw [RtOutcome.calls_answer hop hctx, answerCalls_wrappedContext] at h
      obtain rfl := Except.ok.inj h
      split
      · exact .inr (.inr ⟨_, _, rfl⟩)
      · exact .inr (.inl ⟨_, _, rfl⟩)

/-- The listener of a wrapper hears of no failed operation. -/
theorem rtCalls_ne_onError {outcome : RtOutcome π} {callbacks : ReqCallbacks} {reqData : UInt64}
    (hctx : op.hasContext = true → c.reqContexts[cid]? = some (wrappedContext ctx))
    (successCallback : Bool) (error : NRtError) :
    rtCalls callbacks reqData successCallback c op cid outcome ≠
      .ok (some [.listener (.onError error)]) := by
  unfold rtCalls
  cases hcalls : outcome.calls c op cid with
  | error e =>
    intro h
    cases h
  | ok calls =>
    rcases RtOutcome.calls_cases hctx hcalls with rfl | ⟨request, msg, rfl⟩ | ⟨request, error', rfl⟩
    · intro h
      cases h
    · cases successCallback with
      | true =>
        intro h
        cases h
      | false =>
        intro h
        cases h
    · cases hd : rtDeliver callbacks reqData successCallback (.error request error' : UserCall π) with
      | none => simp [Except.map, hd]
      | some calls =>
        simp only [Except.map, List.mapM_cons, List.mapM_nil, hd]
        unfold rtDeliver at hd
        dsimp only at hd
        split at hd
        · obtain rfl := Option.some.inj hd
          intro h
          cases h
        · obtain ⟨error'', -, rfl⟩ := Option.map_eq_some_iff.1 hd
          intro h
          cases h

end

/-! ## The default error path -/

/-- A failure without an error callback goes where it would without the wrapper exactly for
the requests of `KeepsDefault`; of a realtime operation, never. -/
theorem default_error_iff (json : JsonLib) :
    (∀ (w : NClientWrapper) (reqData : UInt64) (q : Nat) (r : ClientRequest) (outcome : Outcome),
      w.defaultErrorCallback = true → r.errorCallback = false → outcome.Fails json r →
      ((∃ error, w.calls json reqData q r outcome = some [.defaultError error] ∧
        outcome.calls json true q r = some [.defaultError error]) ↔ KeepsDefault json r outcome)) ∧
    ∀ {π : Type} (callbacks : ReqCallbacks) (reqData : UInt64) (c : NRtClient) (op : RtOp)
      (cid : Int32) (ctx : RtRequestContext) (outcome : RtOutcome π),
      (op.hasContext = true → c.reqContexts[cid]? = some (wrappedContext ctx)) →
      ∀ error, rtCalls callbacks reqData ctx.successCallback c op cid outcome ≠
        .ok (some [.listener (.onError error)]) := by
  constructor
  · intro w reqData q r outcome hdefault herror hfails
    exact NClientWrapper.default_iff hdefault herror hfails
  · intro π callbacks reqData c op cid ctx outcome hctx error
    exact rtCalls_ne_onError hctx ctx.successCallback error

def accountRequest : ClientRequest := ⟨.getAccount ⟨"token", "user"⟩, true, false⟩

def groupRequest : ClientRequest := ⟨.joinGroup ⟨"token", "user"⟩ "group", true, false⟩

def goneResponse : Outcome := .response { statusCode := 404, body := RestState.goneBody }

def goneError : NError := { message := "message: gone", code := .notFound }

/-- A wrapper with a default callback after a request without an error callback. -/
def defaultWrapper : NClientWrapper :=
  NClientWrapper.setErrorCallback { callbacks := (({} : ReqCallbacks).register 0 true false).1 } true

/-- A client whose only request comes from the wrapper. -/
def rtWrapped : NRtClient :=
  (NRtClient.createReqContext { listener := true } (wrappedContext ⟨0, true, false⟩)).1

/-- The same request without the wrapper. -/
def rtDirect : NRtClient := (NRtClient.createReqContext { listener := true } ⟨0, true, false⟩).1

theorem default_error_iff_getAccount :
    (∃ error, defaultWrapper.calls RestState.accountJson 1 0 accountRequest goneResponse =
        some [.defaultError error] ∧
      goneResponse.calls RestState.accountJson true 0 accountRequest = some [.defaultError error]) ∧
    rtCalls defaultWrapper.callbacks 1 true rtWrapped (.leaveChat "chat") 0
        (.sending false true true : RtOutcome Unit) ≠
      .ok (some [.listener (.onError ⟨RtErrorCode.connectError, "Not connected", ∅⟩)]) := by
  obtain ⟨hclient, hrt⟩ := default_error_iff RestState.accountJson
  refine ⟨(hclient defaultWrapper 1 0 accountRequest goneResponse rfl rfl ?_).2 ⟨⟨_, rfl⟩, ?_, .inl rfl⟩,
    hrt defaultWrapper.callbacks 1 rtWrapped (.leaveChat "chat") 0 ⟨0, true, false⟩ _ ?_ _⟩
  · intro h
    cases h
  · exact ⟨goneError, rfl, by decide⟩
  · intro _
    rfl

/-- `joinGroup` loses its error, and so does every realtime operation. -/
theorem default_error_lost :
    (goneResponse.Fails RestState.accountJson groupRequest ∧
      goneResponse.calls RestState.accountJson true 0 groupRequest = some [.defaultError goneError] ∧
      defaultWrapper.calls RestState.accountJson 1 0 groupRequest goneResponse = some []) ∧
    (RtOutcome.sending false true true : RtOutcome Unit).calls rtDirect (.leaveChat "chat") 0 =
      .ok [.listener (.onError ⟨RtErrorCode.connectError, "Not connected", ∅⟩)] ∧
    rtCalls defaultWrapper.callbacks 1 true rtWrapped (.leaveChat "chat") 0
      (.sending false true true : RtOutcome Unit) = .ok (some []) := by
  refine ⟨⟨?_, rfl, rfl⟩, rfl, rfl⟩
  intro h
  cases h

end NakamaCpp.CApi
