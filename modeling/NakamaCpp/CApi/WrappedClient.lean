import NakamaCpp.CApi.ClientWrapper
import NakamaCpp.CApi.ReqIds
import NakamaCpp.CApi.SessionHandles
import NakamaCpp.Lib.DispatchLayer
import NakamaCpp.Rest.Backend
import NakamaCpp.Rest.BaseClient

/-!
# A program that uses a client

The same program over a client and over `NClientWrapper`, which goes through the C interface to that
client: `DirectClient` and `WrappedClient`.  What the wrapper has is that of the other modules: the
tables and ids of the requests, the operations as they cross, the data that come back, the sessions
behind handles.

What a program may do so that both are the same to it is `ClientAct.Sound`; that they are is in
`WrappedClientRun.lean`.
-/

namespace NakamaCpp.CApi

open Rest CInterop Dispatch Handles Std

/-! ## What a program sees -/

/-- The argument of a success callback; a session is known by its number. -/
inductive CallbackArgument
  | session (i : Nat)
  | data (type : CallbackType) (data : type.Cpp)
  | empty

/-- A call of one of the program's callbacks. -/
inductive CalledBack
  | success (request : Nat) (argument : CallbackArgument)
  | error (request : Nat) (error : NError)
  | defaultError (error : NError)

inductive ClientSeen
  | done
  /-- what goes to the server -/
  | sent (op : ClientOp)
  | calls (calls : List CalledBack)
  /-- a failed assertion -/
  | died
  | session (answer : Option SessionAnswer)

/-- What a program and the carrier do.  `ρ` is what comes from the server; `addr` is where the
allocator puts a context, or a session that an answer makes. -/
inductive ClientAct (ρ : Type)
  | setErrorCallback (set : Bool)
  /-- an operation with session `i`, if it is given one -/
  | request (i : Option Nat) (r : ClientRequest) (addr : Nat) (kept : Bool)
  /-- `garbage` is what a cursor holds that nobody has assigned -/
  | respond (closure : Closure) (answer : ρ) (addr : CSession) (garbage : Option CStr)
  /-- the innermost callback returns -/
  | returns
  | query (i : Nat) (q : SessionQuery)
  | release (i : Nat)

/-! ## Directly -/

structure DirectClient (γ ρ : Type) where
  client : State ClientRequest γ ρ ApiCall := {}
  sessions : List (Object DefaultSession) := []

namespace DirectClient

/-- A call, and the sessions with the one that it brings. -/
def hand (sessions : List (Object DefaultSession)) (addr : CSession) (call : ApiCall) :
    List (Object DefaultSession) × CalledBack :=
  match call.call, call.result with
  | .success q, some (.session session) =>
    (sessions ++ [(addr, some session)], .success q (.session sessions.length))
  | .success q, some (.data type data) => (sessions, .success q (.data type data))
  | .success q, _ => (sessions, .success q .empty)
  | .error q error, _ => (sessions, .error q error)
  | .defaultError error, _ => (sessions, .defaultError error)

def handAll (sessions : List (Object DefaultSession)) (addr : CSession) :
    List ApiCall → List (Object DefaultSession) × List CalledBack
  | [] => (sessions, [])
  | call :: calls =>
    let (sessions, first) := hand sessions addr call
    let (sessions, rest) := handAll sessions addr calls
    (sessions, first :: rest)

variable {lib : ApiLib} {γ ρ : Type}

/-- The program goes on if the client does something. -/
def step (b : Backend lib γ ρ) (d : DirectClient γ ρ) :
    ClientAct ρ → DirectClient γ ρ × Option ClientSeen
  | .setErrorCallback set =>
    match d.client.step b.client (.setFallback set) with
    | some client => ({ d with client }, some .done)
    | none => (d, none)
  | .request _ r addr kept =>
    match d.client.step b.client (.request r addr kept) with
    | some client =>
      ({ d with client },
        some (if (b.client.fill r).isSome then .sent r.op
          else .calls (handAll d.sessions 0 (b.client.refuse d.client.requests.length r)).2))
    | none => (d, none)
  | .respond closure answer addr _ =>
    match d.client.step b.client (.respond closure answer) with
    | some client =>
      match (d.client.outcome b.client closure answer).calls with
      | some calls =>
        let (sessions, calls) := handAll d.sessions addr calls
        ({ client, sessions }, some (.calls calls))
      | none => ({ d with client }, some .died)
    | none => (d, none)
  | .returns =>
    match d.client.step b.client .returns with
    | some client => ({ d with client }, some .done)
    | none => (d, none)
  | .query i q =>
    let (sessions, answer) := SessionCall.objectStep d.sessions (.query i q)
    ({ d with sessions }, answer.map .session)
  | .release i =>
    let (sessions, answer) := SessionCall.objectStep d.sessions (.release i)
    ({ d with sessions }, answer.map .session)

end DirectClient

/-! ## Through the wrapper -/

structure WrappedClient (γ ρ : Type) where
  /-- the wrapped client -/
  client : State ClientRequest γ ρ ApiCall := {}
  /-- `_defaultErrorCallback` is not null -/
  defaultErrorCallback : Bool := false
  /-- `_curReqId` and the callbacks by request; what the requests have given to C functions -/
  ids : IdState := {}
  sessions : WrappedSessions
  /-- of each callback that runs, innermost first, whether it is that of a request -/
  frames : List Bool := []

/-- The C++ sessions as the C functions of a client find them. -/
def SessionVector.sessions (g : SessionVector) : Sessions :=
  g.map fun e => (e.1, ⟨e.2.token, e.2.userId⟩)

namespace WrappedClient

variable {lib : ApiLib} {γ ρ : Type}

/-- The callback that a C callback finds for request `q`, of which it has the id. -/
def callback (w : WrappedClient γ ρ) (q : Nat) (ok : Bool) : Option Nat := do
  let r ← w.ids.wrapper.outstanding.find? fun r => r.number == q
  let a ← w.ids.asked[q]?
  w.ids.wrapper.tables.dispatched (handlerTable a.op ok) r.id

/-- A call of the wrapped client: a closure of NClientC.cpp, and the handler of the wrapper. -/
def deliver (w : WrappedClient γ ρ) (addr : CSession) (garbage : Option CStr) (call : ApiCall) :
    Option (WrappedSessions × List CalledBack) :=
  match call.call, call.result with
  | .success q, some (.session session) =>
    -- the session is saved, whoever wraps it
    let g := w.sessions.g.save addr session
    match w.callback q true with
    | some request =>
      some ({ w.sessions with g, wrappers := w.sessions.wrappers ++ [{ cSession := addr }] },
        [.success request (.session w.sessions.wrappers.length)])
    | none => some ({ w.sessions with g }, [])
  | .success q, some (.data type data) =>
    match w.callback q true with
    | some request =>
      (type.roundTrip garbage data).map fun data =>
        (w.sessions, [.success request (.data type data)])
    | none => some (w.sessions, [])
  | .success q, _ =>
    some (w.sessions, (w.callback q true).toList.map fun request => .success request .empty)
  | .error q error, _ =>
    match w.callback q false with
    | some request =>
      (assignNError (.assign error)).map fun error => (w.sessions, [.error request error])
    | none => some (w.sessions, [])
  | .defaultError error, _ =>
    if w.defaultErrorCallback then
      (assignNError (.assign error)).map fun error => (w.sessions, [.defaultError error])
    else some (w.sessions, [])

def deliverAll (w : WrappedClient γ ρ) (addr : CSession) (garbage : Option CStr) :
    List ApiCall → Option (WrappedSessions × List CalledBack)
  | [] => some (w.sessions, [])
  | call :: calls => do
    let (sessions, first) ← w.deliver addr garbage call
    let (sessions, rest) ← deliverAll { w with sessions } addr garbage calls
    return (sessions, first ++ rest)

/-- Some callback of the request is called, and not the default one. -/
def ofRequest (call : ApiCall) : Bool :=
  match call.call with
  | .defaultError _ => false
  | _ => true

def isSuccess (call : ApiCall) : Bool :=
  match call.call with
  | .success _ => true
  | _ => false

/-- What the wrapped client has called, if it has, returns at once. -/
def back (b : Backend lib γ ρ) (client : State ClientRequest γ ρ ApiCall) (calls : List ApiCall) :
    Option (State ClientRequest γ ρ ApiCall) :=
  if calls.isEmpty then some client else client.step b.client .returns

/-- The calls of an answer have been made by `client`, and the program's callbacks run, if there
are any. -/
def answered (b : Backend lib γ ρ) (w : WrappedClient γ ρ) (client : State ClientRequest γ ρ ApiCall)
    (q : Nat) (addr : CSession) (garbage : Option CStr) (calls : List ApiCall) :
    Option (WrappedClient γ ρ × List CalledBack) := do
  let (sessions, seen) ← w.deliverAll addr garbage calls
  let ids ← w.ids.step (.complete q (calls.any isSuccess))
  if seen.isEmpty then
    let client ← back b client calls
    return ({ w with client, ids, sessions }, [])
  else
    return ({ w with client, ids, sessions, frames := calls.any ofRequest :: w.frames }, seen)

def step (b : Backend lib γ ρ) (w : WrappedClient γ ρ) :
    ClientAct ρ → WrappedClient γ ρ × Option ClientSeen
  | .setErrorCallback set =>
    -- `OnDefaultErrorStatic` is set in any case
    match w.client.step b.client (.setFallback true) with
    | some client => ({ w with client, defaultErrorCallback := set }, some .done)
    | none => (w, none)
  | .request i r addr kept =>
    let wrapper := i.bind fun i => w.sessions.wrappers[i]?
    match received w.sessions.g.sessions ((wrapper.map NSessionWrapper.cSession).getD 0) r.op with
    | some op =>
      match w.client.step b.client (.request { NClientWrapper.wrappedRequest r with op } addr kept),
        w.ids.step (.request r.op r.successCallback r.errorCallback) with
      | some client, some ids => ({ w with client, ids }, some (.sent op))
      | _, _ => (w, none)
    | none => (w, none)
  | .respond closure answer addr garbage =>
    match w.client.step b.client (.respond closure answer) with
    | some client =>
      match (w.client.outcome b.client closure answer).calls with
      | some calls =>
        match w.answered b client closure.request addr garbage calls with
        | some (w, seen) => (w, some (.calls seen))
        | none => (w, none)
      | none => ({ w with client }, some .died)
    | none => (w, none)
  | .returns =>
    match w.client.step b.client .returns, w.frames with
    | some client, true :: frames =>
      match w.ids.step .returns with
      | some ids => ({ w with client, ids, frames }, some .done)
      | none => (w, none)
    | some client, false :: frames => ({ w with client, frames }, some .done)
    | _, _ => (w, none)
  | .query i q =>
    let (sessions, answer) := SessionCall.step w.sessions (.query i q)
    ({ w with sessions }, answer.map .session)
  | .release i =>
    let (sessions, answer) := SessionCall.step w.sessions (.release i)
    ({ w with sessions }, answer.map .session)

end WrappedClient

/-! ## What a program may do -/

/-- The error goes to the same callback, and the wrapped client reads no body that the program has
no callback for. -/
def Verdict.Plain (r : ClientRequest) (defaultErrorCallback : Bool) : Verdict → Prop
  | .unreadable _ => r.successCallback = true ∧ heard
  | .failure _ => heard
  | _ => True
where
  heard : Prop :=
    r.errorCallback = true ∨ (∃ session, r.op = .getAccount session) ∨ defaultErrorCallback = false

/-- What the call brings is kept by the C interface; a session is where no other one is. -/
def ApiCall.Crosses (sessions : List (Object DefaultSession)) (addr : CSession) (call : ApiCall) : Prop :=
  match call.call, call.result with
  | .success _, some (.session session) =>
    addr ≠ 0 ∧ (∀ session, (addr, some session) ∉ sessions) ∧ PortableSession session
  | .success _, some (.data type data) => type.Portable data ∧ type.Kept data
  | .success _, _ => True
  | .error _ error, _ | .defaultError error, _ => PortableNError error

/-- An operation and its session cross as they are; who authenticates wants the session; there
are fewer requests than ids. -/
structure ClientRequest.Sound {γ ρ : Type} (d : DirectClient γ ρ) (i : Option Nat)
    (r : ClientRequest) : Prop where
  portable : CApi.Portable r.op
  intact : CrossesIntact r.op
  session : ∀ session ∈ sessionOf r.op, ∃ j addr s, i = some j ∧
    d.sessions[j]? = some (addr, some s) ∧ session = ⟨s.token, s.userId⟩
  wanted : r.op.authenticates = true → r.successCallback = true
  few : d.client.requests.length + 1 < idCount

def ClientAct.Sound {lib : ApiLib} {γ ρ : Type} (b : Backend lib γ ρ) (maps : MapRegistry String)
    (d : DirectClient γ ρ) : ClientAct ρ → Prop
  | .request i r _ _ => ClientRequest.Sound d i r
  | .respond closure answer addr _ =>
    (∀ r, d.client.requests[closure.request]? = some r →
      Verdict.Plain r d.client.fallback (b.verdict r.op.responseType answer)) ∧
    ∀ calls, (d.client.outcome b.client closure answer).calls = some calls →
      ∀ call ∈ calls, ApiCall.Crosses d.sessions addr call
  | .query i q => SessionCall.Sound maps d.sessions (.query i q)
  | .release i => SessionCall.Sound maps d.sessions (.release i)
  | .setErrorCallback _ | .returns => True

end NakamaCpp.CApi
