import NakamaCpp.Lib.Transition

/-!
# The HTTP client: pending and finished requests

Model of src/NHttpClientCppRest.cpp.  `request`, `tick` and `cancelAllRequests`
are called on one user thread, also from inside the callbacks that `tick` runs;
completions arrive on other threads, each under the context mutex.  `tick` takes
one finished request at a time and calls back outside the mutex;
`cancelAllRequests` walks the pending requests and calls back under it.

A request is named by its serial number.  Its `ReqContext` carries the id that
`createReqContext` gave it, a `uint64_t`, and everything the code looks up it
looks up by that id.
-/

namespace NakamaCpp.Http

open Transition

/-! ## Data -/

structure NHttpResponse where
  statusCode : Int := 0
  body : String := ""
  errorMessage : String := ""
deriving DecidableEq, Repr

namespace InternalStatusCodes

def connectionError : Int := 600
def notInitializedError : Int := 601
def cancelledByUser : Int := 602

end InternalStatusCodes

/-- `ReqContext`, whose callback is known by its request. -/
structure ReqContext where
  id : UInt64
  request : Nat
  callback : Bool
  response : Option NHttpResponse := none
deriving DecidableEq, Repr

/-- The members of `NHttpClientCppRest` and its shared context. -/
structure NHttpClientCppRest where
  nextReqId : UInt64 := 1
  /-- `_client` is not null -/
  client : Bool := false
  baseUri : String := ""
  pendingRequests : List ReqContext := []
  finishedRequests : List ReqContext := []
deriving DecidableEq, Repr

/-- How `request` ends: it throws, it finds no base uri, or the request is on its way. -/
inductive RequestResult
  | threw
  | notInitialized
  | sent
deriving DecidableEq, Repr

namespace NHttpClientCppRest

/-- `setBaseUri`, where `same` says that the client's base uri prints as `uri`. -/
def setBaseUri (c : NHttpClientCppRest) (uri : String) (same : Bool) : NHttpClientCppRest :=
  { c with baseUri := uri, client := c.client && same }

/-- `createReqContext`. -/
def createReqContext (c : NHttpClientCppRest) (request : Nat) (callback : Bool) : NHttpClientCppRest :=
  { c with
    nextReqId := c.nextReqId + 1
    pendingRequests := c.pendingRequests ++ [{ id := c.nextReqId, request, callback }] }

/-- The first pending request with the given id. -/
def findPending (c : NHttpClientCppRest) (id : UInt64) : Option ReqContext :=
  c.pendingRequests.find? fun ctx => ctx.id == id

/-- `removePendingReq`. -/
def removePendingReq (c : NHttpClientCppRest) (id : UInt64) : NHttpClientCppRest :=
  { c with pendingRequests := c.pendingRequests.eraseP fun ctx => ctx.id == id }

/-- `finishReq`. -/
def finishReq (c : NHttpClientCppRest) (id : UInt64) (response : NHttpResponse) : NHttpClientCppRest :=
  match c.findPending id with
  | some ctx =>
    { c.removePendingReq id with
      finishedRequests := c.finishedRequests ++ [{ ctx with response := some response }] }
  | none => c

/-- `finishReqWithError`. -/
def finishReqWithError (c : NHttpClientCppRest) (id : UInt64) (statusCode : Int) (reason : String) :
    NHttpClientCppRest :=
  c.finishReq id { statusCode, errorMessage := reason }

/-- `request`, where `clientBuilt` and `requestBuilt` say whether constructing the
`http_client`, and the request from there on, go through without throwing. -/
def request (c : NHttpClientCppRest) (request : Nat) (callback clientBuilt requestBuilt : Bool) :
    NHttpClientCppRest × RequestResult :=
  let id := c.nextReqId
  let c := c.createReqContext request callback
  if !c.client && c.baseUri == "" then
    (c.finishReqWithError id InternalStatusCodes.notInitializedError
      "[NHttpClientCppRest::request] base uri is not set", .notInitialized)
  else if c.client || clientBuilt then
    ({ c with client := true }, if requestBuilt then .sent else .threw)
  else (c, .threw)

/-- The response with which `cancelAllRequests` calls back. -/
def cancelledResponse : NHttpResponse :=
  { statusCode := InternalStatusCodes.cancelledByUser, errorMessage := "cancelled by user" }

end NHttpClientCppRest

/-! ## The threads -/

/-- Where the user thread is: `tick` between two callbacks or in one, and the same
for `cancelAllRequests`. -/
inductive Frame
  | tickLoop
  | tickCall
  | cancelLoop
  | cancelCall
deriving DecidableEq, Repr

/-- A request as it was created. -/
structure Request where
  id : UInt64
  callback : Bool
deriving DecidableEq, Repr

/-- How a request left both lists: popped by `tick`, cancelled while pending, or
answered without a callback to tell. -/
inductive Fate
  | ticked
  | cancelled
  | answered
deriving DecidableEq, Repr

/-- A callback invoked by `tick` (`.ticked`) or by `cancelAllRequests` (`.cancelled`). -/
structure Invocation where
  request : Nat
  via : Fate
  response : Option NHttpResponse
deriving DecidableEq, Repr

structure HttpState where
  c : NHttpClientCppRest := {}
  stack : List Frame := []
  /-- `cancelAllRequests` holds the context mutex -/
  locked : Bool := false
  /-- the user thread has tried to lock the mutex while holding it -/
  selfLock : Bool := false
  /-- requests created so far -/
  requests : List Request := []
  /-- requests whose continuation has not run -/
  inFlight : List Nat := []
  consumed : List (ReqContext × Fate) := []
  /-- requests in the order in which they were moved to `_finishedRequests` -/
  completed : List Nat := []
  /-- callbacks invoked, oldest first -/
  invoked : List Invocation := []
deriving DecidableEq, Repr

/-- What the continuation of a request finds: a response, whose body may not be
readable, or an exception. -/
inductive Completion
  | responded (statusCode : Int) (reasonPhrase : String) (body : Except String String)
  | failed (what : String)

inductive HttpAction
  /-- calls of the user -/
  | setBaseUri (uri : String) (same : Bool)
  | request (callback clientBuilt requestBuilt : Bool)
  | tick
  | cancelAllRequests
  /-- the next round of the loop in `tick` or in `cancelAllRequests` -/
  | pop
  | cancelNext
  | callbackReturns
  /-- the continuation of a request, on another thread -/
  | complete (request : Nat) (completion : Completion)

namespace HttpState

/-- The user thread runs code of the user. -/
def userCode (s : HttpState) : Bool :=
  !s.selfLock &&
  match s.stack with
  | [] => true
  | .tickCall :: _ => true
  | .cancelCall :: _ => true
  | _ => false

/-- `request`; without a base uri the request is finished at once. -/
def request (s : HttpState) (callback clientBuilt requestBuilt : Bool) : HttpState :=
  let q := s.requests.length
  let (c, result) := s.c.request q callback clientBuilt requestBuilt
  { s with
    c
    requests := s.requests ++ [{ id := s.c.nextReqId, callback }]
    inFlight := s.inFlight ++ if result = .sent then [q] else []
    completed := s.completed ++
      if result = .notInitialized then
        (((s.c.createReqContext q callback).findPending s.c.nextReqId).map ReqContext.request).toList
      else [] }

/-- `finishReq` under the mutex. -/
def finish (s : HttpState) (id : UInt64) (response : NHttpResponse) : HttpState :=
  { s with
    c := s.c.finishReq id response
    completed := s.completed ++ ((s.c.findPending id).map ReqContext.request).toList }

/-- The text of a failed request. -/
def exceptionReason (what : String) : String := "[NHttpClientCppRest::request] exception: " ++ what

/-- The continuation of a request with the given id. -/
def continuation (s : HttpState) (id : UInt64) (callback : Bool) : Completion → HttpState
  | .responded statusCode reasonPhrase body =>
    if callback then
      match body with
      | .ok body =>
        s.finish id
          { statusCode, body, errorMessage := if statusCode = 200 then "" else reasonPhrase }
      | .error what =>
        s.finish id
          { statusCode := InternalStatusCodes.connectionError, errorMessage := exceptionReason what }
    else
      { s with
        c := s.c.removePendingReq id
        consumed := s.consumed ++ ((s.c.findPending id).map fun ctx => (ctx, Fate.answered)).toList }
  | .failed what =>
    s.finish id
      { statusCode := InternalStatusCodes.connectionError, errorMessage := exceptionReason what }

/-- `popFinishedReq` in the loop of `tick`, and the callback. -/
def pop (s : HttpState) (stack : List Frame) : HttpState :=
  match s.c.finishedRequests with
  | [] => { s with stack }
  | ctx :: finished =>
    let s :=
      { s with
        c := { s.c with finishedRequests := finished }
        consumed := s.consumed ++ [(ctx, .ticked)] }
    if ctx.callback then
      { s with
        stack := .tickCall :: stack
        invoked := s.invoked ++ [⟨ctx.request, .ticked, ctx.response⟩] }
    else s

/-- `_pendingRequests.pop_front()` in `cancelAllRequests`. -/
def dropPending (s : HttpState) : HttpState :=
  match s.c.pendingRequests with
  | [] => s
  | ctx :: pending =>
    { s with
      c := { s.c with pendingRequests := pending }
      consumed := s.consumed ++ [(ctx, .cancelled)] }

/-- The loop of `cancelAllRequests`: the next callback, or the end. -/
def cancelNext (s : HttpState) (stack : List Frame) : HttpState :=
  match s.c.pendingRequests with
  | [] => { s with stack, locked := false }
  | ctx :: _ =>
    if ctx.callback then
      { s with
        stack := .cancelCall :: stack
        invoked := s.invoked ++
          [⟨ctx.request, .cancelled, some NHttpClientCppRest.cancelledResponse⟩] }
    else s.dropPending

def step (s : HttpState) : HttpAction → Option HttpState
  | .setBaseUri uri same => if s.userCode then some { s with c := s.c.setBaseUri uri same } else none
  | .request callback clientBuilt requestBuilt =>
    if s.userCode then
      some (if s.locked then { s with selfLock := true }
        else s.request callback clientBuilt requestBuilt)
    else none
  | .tick =>
    if s.userCode then
      some (if s.locked then { s with selfLock := true }
        else { s with stack := .tickLoop :: s.stack })
    else none
  | .cancelAllRequests =>
    if s.userCode then
      some (if s.locked then { s with selfLock := true }
        else
          { s with
            c := { s.c with client := false }
            stack := .cancelLoop :: s.stack
            locked := true })
    else none
  | .pop =>
    match s.stack with
    | .tickLoop :: stack => if s.locked || s.selfLock then none else some (s.pop stack)
    | _ => none
  | .cancelNext =>
    match s.stack with
    | .cancelLoop :: stack => if s.selfLock then none else some (s.cancelNext stack)
    | _ => none
  | .callbackReturns =>
    if s.selfLock then none
    else
      match s.stack with
      | .tickCall :: stack => some { s with stack := .tickLoop :: stack }
      | .cancelCall :: stack => some { s.dropPending with stack := .cancelLoop :: stack }
      | _ => none
  | .complete q completion =>
    if q ∈ s.inFlight ∧ s.locked = false then
      match s.requests[q]? with
      | some r => some
        ({ s with inFlight := s.inFlight.erase q }.continuation r.id r.callback completion)
      | none => none
    else none

/-! ## What a step does -/

/-- Every way to take a step, with the guard that it has passed. -/
inductive Steps (s : HttpState) : HttpAction → HttpState → Prop
  | setBaseUri (uri : String) (same : Bool) (hu : s.userCode = true) :
      Steps s (.setBaseUri uri same) { s with c := s.c.setBaseUri uri same }
  | request (callback clientBuilt requestBuilt : Bool) (hu : s.userCode = true)
      (hl : s.locked = false) :
      Steps s (.request callback clientBuilt requestBuilt)
        (s.request callback clientBuilt requestBuilt)
  | requestLocked (callback clientBuilt requestBuilt : Bool) (hu : s.userCode = true)
      (hl : s.locked = true) :
      Steps s (.request callback clientBuilt requestBuilt) { s with selfLock := true }
  | tick (hu : s.userCode = true) (hl : s.locked = false) :
      Steps s .tick { s with stack := .tickLoop :: s.stack }
  | tickLocked (hu : s.userCode = true) (hl : s.locked = true) :
      Steps s .tick { s with selfLock := true }
  | cancelAllRequests (hu : s.userCode = true) (hl : s.locked = false) :
      Steps s .cancelAllRequests
        { s with
          c := { s.c with client := false }
          stack := .cancelLoop :: s.stack
          locked := true }
  | cancelLocked (hu : s.userCode = true) (hl : s.locked = true) :
      Steps s .cancelAllRequests { s with selfLock := true }
  | pop (stack : List Frame) (hst : s.stack = .tickLoop :: stack) (hl : s.locked = false)
      (hself : s.selfLock = false) : Steps s .pop (s.pop stack)
  | cancelNext (stack : List Frame) (hst : s.stack = .cancelLoop :: stack)
      (hself : s.selfLock = false) : Steps s .cancelNext (s.cancelNext stack)
  | tickReturns (stack : List Frame) (hst : s.stack = .tickCall :: stack)
      (hself : s.selfLock = false) :
      Steps s .callbackReturns { s with stack := .tickLoop :: stack }
  | cancelReturns (stack : List Frame) (hst : s.stack = .cancelCall :: stack)
      (hself : s.selfLock = false) :
      Steps s .callbackReturns { s.dropPending with stack := .cancelLoop :: stack }
  | complete (q : Nat) (completion : Completion) (r : Request) (hq : q ∈ s.inFlight)
      (hl : s.locked = false) (hr : s.requests[q]? = some r) :
      Steps s (.complete q completion)
        ({ s with inFlight := s.inFlight.erase q }.continuation r.id r.callback completion)

theorem steps_of_step {s s' : HttpState} {a : HttpAction} (h : s.step a = some s') : s.Steps a s' := by
  cases a <;> simp only [step] at h
  case setBaseUri uri same =>
    split at h <;> cases h
    next hu => exact .setBaseUri uri same hu
  case request callback clientBuilt requestBuilt =>
    split at h <;> cases h
    next hu =>
    split
    · next hl => exact .requestLocked callback clientBuilt requestBuilt hu hl
    · next hl => exact .request callback clientBuilt requestBuilt hu (Bool.eq_false_iff.2 hl)
  case tick =>
    split at h <;> cases h
    next hu =>
    split
    · next hl => exact .tickLocked hu hl
    · next hl => exact .tick hu (Bool.eq_false_iff.2 hl)
  case cancelAllRequests =>
    split at h <;> cases h
    next hu =>
    split
    · next hl => exact .cancelLocked hu hl
    · next hl => exact .cancelAllRequests hu (Bool.eq_false_iff.2 hl)
  case pop =>
    split at h
    · next stack hst =>
      split at h <;> cases h
      next hfree =>
      simp only [Bool.or_eq_true, not_or, Bool.not_eq_true] at hfree
      exact .pop stack hst hfree.1 hfree.2
    · cases h
  case cancelNext =>
    split at h
    · next stack hst =>
      split at h <;> cases h
      next hself => exact .cancelNext stack hst (Bool.eq_false_iff.2 hself)
    · cases h
  case callbackReturns =>
    split at h
    · cases h
    · next hself =>
      have hself := Bool.eq_false_iff.2 hself
      split at h <;> cases h
      · next stack hst => exact .tickReturns stack hst hself
      · next stack hst => exact .cancelReturns stack hst hself
  case complete q completion =>
    split at h
    · next hq =>
      split at h <;> cases h
      next r hr => exact .complete q completion r hq.1 hq.2 hr
    · cases h

end HttpState

end NakamaCpp.Http
