import NakamaCpp.Rest.RestRun

/-!
# The life of the gRPC client

`GrpcClient` as a client in the sense of `Dispatch`: the carrier is the completion queue,
the pointer that it gives back is the tag of a call.  A call on an open queue yields one
event, which `tick` takes; the queue reads and writes the context of the call and the
message for its response until then.  `disconnect` shuts the queue down, `~GrpcClient` does
that too and deletes the contexts that are left.

    Reach (step json) grpcOk {} s  →  Lifecycle s                     (lifecycle)
-/

namespace NakamaCpp.Rest

open Transition Dispatch

/-! ## Events -/

/-- What `AsyncNext` returns with a tag, the status in the context of the call, and the
token, if the response is a session. -/
structure GrpcEvent where
  ok : Bool
  errorCode : Int := 0
  errorMessage : String := ""
  errorDetails : String := ""
  token : String := ""
deriving DecidableEq, Repr

/-- The tag has come back with an ok status. -/
def GrpcEvent.succeeded (event : GrpcEvent) : Bool := event.ok && event.errorCode == 0

/-- What `onResponse` calls of a context, and the message that its success callback reads. -/
structure GrpcContext where
  successCallback : Bool
  errorCallback : Bool
  data : Option ResponseType
deriving DecidableEq, Repr

namespace GrpcClient

/-- The error of a call whose status is not ok. -/
def statusError (event : GrpcEvent) : NError :=
  let errMessage := "message: " ++ event.errorMessage ++
    if event.errorDetails = "" then "" else "\ndetails: " ++ event.errorDetails
  match grpcErrorCode event.errorCode with
  | some code => { message := errMessage, code }
  | none => { message := errMessage ++ "\ngrpc code: " ++ toString event.errorCode }

/-- `onResponse` for the context of request `q`, which it has found. -/
def onResponse (json : JsonLib) (defaultErrorCallback : Bool) (q : Nat) (ctx : GrpcContext)
    (event : GrpcEvent) : Option (List ClientCall) :=
  if event.ok then
    if event.errorCode = 0 then
      if ctx.successCallback then
        if ctx.data = some .Session ∧ DefaultSession.built json event.token = false then none
        else some [.success q]
      else some []
    else some (reqError (own q ctx.errorCallback) defaultErrorCallback (statusError event))
  else
    some (reqError (own q ctx.errorCallback) defaultErrorCallback
      { message := "Communication failed. Please check connection.", code := .connectionError })

end GrpcClient

/-- What `GrpcClient` puts into a context, and `onResponse`. -/
def grpcClient (json : JsonLib) : Client ClientRequest GrpcContext GrpcEvent ClientCall where
  fill r :=
    if r.op.noSession then none
    else some
      { successCallback := r.successCallback
        errorCallback := r.errorCallback
        data := r.op.responseType }
  refuse := refuse
  answer := GrpcClient.onResponse json
  lost defaultErrorCallback := reqError none defaultErrorCallback
    { message := "Not found request context.", code := .internalError }

/-! ## The run -/

structure GrpcState where
  client : State ClientRequest GrpcContext GrpcEvent ClientCall := {}
  /-- the queue has been shut down -/
  shutdown : Bool := false
  /-- requests whose call was started after that -/
  late : List Nat := []
  /-- requests whose response message was freed when the operation returned -/
  freed : List Nat := []
  destroyed : Bool := false
  /-- contexts that `~GrpcClient` has deleted -/
  dropped : List (Context GrpcContext) := []
  /-- `onResponse` has gone on after the end of the client -/
  touched : Bool := false

inductive GrpcAction
  | setErrorCallback (set : Bool)
  /-- an operation, whose context is allocated at `addr`; `started` says that it comes to
  the start of its call -/
  | request (r : ClientRequest) (addr : Nat) (started : Bool)
  | disconnect
  /-- a round of the loop in `tick` -/
  | event (tag : Closure) (event : GrpcEvent)
  | callbackReturns
  /-- `~GrpcClient` -/
  | destroy

/-- The response message is held by the success callback alone, if the operation has one;
without one it goes when the operation returns. -/
def ClientRequest.freesResponse (r : ClientRequest) : Bool :=
  r.op.responseType.isSome && !r.successCallback

namespace GrpcState

/-- An operation. -/
def request (json : JsonLib) (s : GrpcState) (r : ClientRequest) (addr : Nat) (started : Bool) :
    GrpcState :=
  let q := s.client.requests.length
  let s' := { s with client := s.client.request (grpcClient json) r addr started }
  if r.op.noSession || !started then s'
  else
    { s' with
      late := s.late ++ if s.shutdown then [q] else []
      freed := s.freed ++ if r.freesResponse then [q] else [] }

/-- `~GrpcClient`. -/
def destroy (s : GrpcState) : GrpcState :=
  { s with
    shutdown := true
    destroyed := true
    dropped := s.client.contexts
    client := { s.client with contexts := [] } }

def step (json : JsonLib) (s : GrpcState) (a : GrpcAction) : Option GrpcState :=
  if s.client.aborted || s.touched then none
  else if s.destroyed then
    match a with
    | .callbackReturns => if s.client.stack = [] then none else some { s with touched := true }
    | _ => none
  else
    match a with
    | .setErrorCallback set => some { s with client := { s.client with fallback := set } }
    | .request r addr started =>
      if addr ∈ s.client.contexts.map Context.addr then none
      else some (s.request json r addr started)
    | .disconnect => some { s with shutdown := true }
    | .event tag event =>
      (s.client.step (grpcClient json) (.respond tag event)).map fun client => { s with client }
    | .callbackReturns =>
      (s.client.step (grpcClient json) .returns).map fun client => { s with client }
    | .destroy => some s.destroy

/-! ## The life of a client -/

/-- What the entry of a request should say: the status has gone to the success callback, if
it is ok, or else the error to whoever is there for it; where somebody is there for an error,
there has been exactly one call. -/
def Told (r : ClientRequest) (q : Nat) (h : Handled GrpcEvent ClientCall) : Prop :=
  ∃ calls, h.calls = some calls ∧
    (if h.response.any GrpcEvent.succeeded then
      calls = if r.successCallback then [.success q] else []
    else ErrorGiven q r.errorCallback h.fallback calls) ∧
    (r.errorCallback = true ∨ h.fallback = true → calls.length = 1)

/-- Every request that was made has one outcome. -/
def AllTold (s : GrpcState) : Prop :=
  ∀ q r, s.client.requests[q]? = some r → ∃ h, s.client.handledFor q = [h] ∧ Told r q h

/-- The queue is used as it asks to be, and the end comes when everybody has been told. -/
structure Lifecycle (s : GrpcState) : Prop where
  openQueue : s.late = []
  /-- the tags that the queue still has lead to their contexts -/
  contexts : ∀ tag ∈ s.client.outstanding, tag.Live s.client.contexts
  messages : s.freed = []
  untouched : s.touched = false
  told : s.destroyed = true → s.AllTold

/-- A call is started before `disconnect`, and its response message stays; a null session
goes to somebody; an ok status comes to a request that has a success callback, or to one
that nobody waits for; the client is destroyed when it has no context left. -/
def grpcOk (s : GrpcState) : GrpcAction → Prop
  | .request r _ started =>
    if r.op.noSession then r.errorCallback = true ∨ s.client.fallback = false
    else started = true → s.shutdown = false ∧ r.freesResponse = false
  | .event tag event => event.succeeded = true → ∀ r ∈ s.client.requests[tag.request]?,
      r.successCallback = true ∨ r.errorCallback = false ∧ s.client.fallback = false
  | .destroy => s.client.contexts = []
  | _ => True

/-! ## Invariant -/

variable {json : JsonLib} {s : GrpcState}

theorem fill_eq_none {r : ClientRequest} : (grpcClient json).fill r = none ↔ r.op.noSession = true := by
  show (if r.op.noSession then none else some _) = none ↔ _
  split
  · next h => exact iff_of_true rfl h
  · next h => exact iff_of_false (by intro h; cases h) h

theorem fill_eq_some {r : ClientRequest} {ctx : GrpcContext} (h : (grpcClient json).fill r = some ctx) :
    ctx = ⟨r.successCallback, r.errorCallback, r.op.responseType⟩ := by
  have h : (if r.op.noSession then none else some _) = some ctx := h
  split at h
  · cases h
  · exact (Option.some.inj h).symm

/-- What was said of a request had somebody to go to. -/
def Heard (r : ClientRequest) (h : Handled GrpcEvent ClientCall) : Prop :=
  match h.response with
  | none => r.errorCallback = true ∨ h.fallback = false
  | some event => event.succeeded = true →
      r.successCallback = true ∨ r.errorCallback = false ∧ h.fallback = false

def AllHeard (client : State ClientRequest GrpcContext GrpcEvent ClientCall) : Prop :=
  ∀ h ∈ client.handled, ∀ r, client.requests[h.request]? = some r → Heard r h

/-- While the client is there. -/
structure Inv (json : JsonLib) (s : GrpcState) : Prop where
  client : State.Inv (grpcClient json) s.client
  heard : AllHeard s.client
  late : s.late = []
  freed : s.freed = []
  untouched : s.touched = false

/-- When the client has gone. -/
structure Ended (s : GrpcState) : Prop where
  outstanding : s.client.outstanding = []
  stack : s.client.stack = []
  late : s.late = []
  freed : s.freed = []
  untouched : s.touched = false
  told : s.AllTold

def Sound (json : JsonLib) (s : GrpcState) : Prop :=
  s.destroyed = false ∧ Inv json s ∨ s.destroyed = true ∧ Ended s

/-- Somebody who is there for an error gets one call. -/
theorem ErrorGiven.length {q : Nat} {errorCallback defaultErrorCallback : Bool} {calls : List ClientCall}
    (h : ErrorGiven q errorCallback defaultErrorCallback calls)
    (hthere : errorCallback = true ∨ defaultErrorCallback = true) : calls.length = 1 := by
  obtain ⟨error, rfl⟩ := h
  cases errorCallback with
  | true => rfl
  | false =>
    rcases hthere with h | h
    · cases h
    · rw [h]
      rfl

/-- The calls of `onResponse` are what the status asks for. -/
theorem told_of_onResponse {q : Nat} {r : ClientRequest} {h : Handled GrpcEvent ClientCall}
    {event : GrpcEvent} {calls : List ClientCall} (hresponse : h.response = some event)
    (hheard : Heard r h) (hcalls : h.calls = some calls)
    (hon : GrpcClient.onResponse json h.fallback q
      ⟨r.successCallback, r.errorCallback, r.op.responseType⟩ event = some calls) : Told r q h := by
  have hgiven := errorGiven_reqError q r.errorCallback h.fallback
  have herror : event.succeeded = false → ErrorGiven q r.errorCallback h.fallback calls →
      Told r q h := by
    intro hfailed hgiven
    refine ⟨calls, hcalls, ?_, ErrorGiven.length hgiven⟩
    rw [hresponse, Option.any_some, if_neg (by rw [hfailed]; exact Bool.false_ne_true)]
    exact hgiven
  unfold GrpcClient.onResponse at hon
  by_cases hok : event.ok = true
  · rw [if_pos hok] at hon
    by_cases hcode : event.errorCode = 0
    · rw [if_pos hcode] at hon
      have hsucceeded : event.succeeded = true := by simp [GrpcEvent.succeeded, hok, hcode]
      unfold Heard at hheard
      rw [hresponse] at hheard
      refine ⟨calls, hcalls, ?_, fun hthere => ?_⟩
      · rw [hresponse, Option.any_some, hsucceeded, if_pos rfl]
        cases hsuccess : r.successCallback with
        | true =>
          simp only [hsuccess, if_true] at hon
          split at hon
          · cases hon
          · exact (Option.some.inj hon).symm
        | false =>
          simp only [hsuccess, Bool.false_eq_true, if_false] at hon
          exact (Option.some.inj hon).symm
      · -- whoever would be told of an error has a success callback
        rcases hheard hsucceeded with hsuccess | ⟨herr, hfallback⟩
        · simp only [hsuccess, if_true] at hon
          split at hon
          · cases hon
          · rw [← Option.some.inj hon]
            rfl
        · rw [herr, hfallback] at hthere
          rcases hthere with h | h <;> cases h
    · rw [if_neg hcode] at hon
      obtain rfl := Option.some.inj hon
      exact herror (by rw [GrpcEvent.succeeded, beq_eq_false_iff_ne.2 hcode, Bool.and_false]) (hgiven _)
  · rw [if_neg hok] at hon
    obtain rfl := Option.some.inj hon
    exact herror (by rw [GrpcEvent.succeeded, Bool.eq_false_iff.2 hok, Bool.false_and]) (hgiven _)

/-- An entry tells its request. -/
theorem Inv.told (hi : Inv json s) (ha : s.client.aborted = false) {h : Handled GrpcEvent ClientCall}
    (hh : h ∈ s.client.handled) {r : ClientRequest} (hr : s.client.requests[h.request]? = some r) :
    Told r h.request h := by
  obtain ⟨calls, hcalls⟩ := hi.client.called ha h hh
  obtain ⟨r', hr', hrecorded⟩ := hi.client.recorded h hh
  obtain rfl : r = r' := Option.some.inj (hr.symm.trans hr')
  have hheard := hi.heard h hh r hr
  cases hresponse : h.response with
  | none =>
    rw [hresponse] at hrecorded
    unfold Heard at hheard
    rw [hresponse] at hheard
    have hgiven := errorGiven_refuse (q := h.request) hheard
    refine ⟨_, hrecorded.2.2, ?_, ErrorGiven.length hgiven⟩
    rw [hresponse, Option.any_none, if_neg Bool.false_ne_true]
    exact hgiven
  | some event =>
    rw [hresponse] at hrecorded
    obtain ⟨ctx, hfill, -, hon⟩ := hrecorded
    obtain rfl := fill_eq_some hfill
    exact told_of_onResponse hresponse hheard hcalls (hon.symm.trans hcalls)

/-- With no context left, everybody has been told. -/
theorem Inv.allTold (hi : Inv json s) (ha : s.client.aborted = false) (hnone : s.client.contexts = []) :
    s.AllTold := by
  intro q r hr
  have hentry : ∃ h ∈ s.client.handled, h.request = q := by
    cases hfill : (grpcClient json).fill r with
    | none =>
      obtain ⟨h, hh, hreq⟩ := List.mem_map.1 (hi.client.refused q r hr hfill)
      exact ⟨h, hh, hreq⟩
    | some ctx =>
      have hcontext : s.client.hasContext (grpcClient json) q = true := by
        unfold State.hasContext
        rw [hr, Option.any_some, hfill]
        rfl
      have hfinished := hi.client.finished_of_nil hnone hcontext
      obtain ⟨h, hh, hreq⟩ := List.mem_map.1 (hi.client.finished_handled ha hfinished)
      exact ⟨h, hh, hreq⟩
  obtain ⟨h, hh, rfl⟩ := hentry
  exact ⟨h, hi.client.handledFor_eq hh, hi.told ha hh hr⟩

/-! ## Steps -/

theorem heard_append {client : State ClientRequest GrpcContext GrpcEvent ClientCall}
    (hi : State.Inv (grpcClient json) client) (hheard : AllHeard client) (r : ClientRequest) :
    ∀ h ∈ client.handled, ∀ r', (client.requests ++ [r])[h.request]? = some r' → Heard r' h := by
  intro h hh r' hr'
  obtain ⟨r'', hr'', -⟩ := hi.recorded h hh
  have := State.getElem?_requests client.requests r hr''
  obtain rfl := Option.some.inj (this.symm.trans hr')
  exact hheard h hh r'' hr''

theorem Inv.request (hi : Inv json s) (ha : s.client.aborted = false) {r : ClientRequest} {addr : Nat}
    {started : Bool} (haddr : addr ∉ s.client.contexts.map Context.addr)
    (hok : grpcOk s (.request r addr started)) : Inv json (s.request json r addr started) := by
  have hclient := hi.client.request ha r started haddr
  have hheard : AllHeard (s.client.request (grpcClient json) r addr started) := by
    unfold State.request
    cases hfill : (grpcClient json).fill r with
    | none =>
      have hok : if r.op.noSession then r.errorCallback = true ∨ s.client.fallback = false
          else started = true → s.shutdown = false ∧ r.freesResponse = false := hok
      rw [fill_eq_none.1 hfill, if_pos rfl] at hok
      intro h hh r' hr'
      rcases List.mem_append.1 hh with hh | hh
      · exact heard_append hi.client hi.heard r h hh r' hr'
      · obtain rfl := List.mem_singleton.1 hh
        obtain rfl := Option.some.inj ((State.getElem?_last _ r).symm.trans hr')
        exact hok
    | some ctx => exact heard_append hi.client hi.heard r
  unfold GrpcState.request
  dsimp only
  split
  · exact ⟨hclient, hheard, hi.late, hi.freed, hi.untouched⟩
  · next hstarted =>
    simp only [Bool.or_eq_true, not_or, Bool.not_eq_true, Bool.not_eq_true', Bool.not_eq_false] at hstarted
    have hok : if r.op.noSession then r.errorCallback = true ∨ s.client.fallback = false
        else started = true → s.shutdown = false ∧ r.freesResponse = false := hok
    rw [hstarted.1, if_neg Bool.false_ne_true] at hok
    obtain ⟨hshutdown, hfrees⟩ := hok hstarted.2
    refine ⟨hclient, hheard, ?_, ?_, hi.untouched⟩
    · show s.late ++ _ = []
      rw [hi.late, hshutdown]
      rfl
    · show s.freed ++ _ = []
      rw [hi.freed, hfrees]
      rfl

/-- The end of a callback. -/
theorem Inv.callbackReturns (hi : Inv json s)
    {client : State ClientRequest GrpcContext GrpcEvent ClientCall}
    (h : s.client.step (grpcClient json) .returns = some client) : Inv json { s with client } := by
  refine ⟨hi.client.step h, ?_, hi.late, hi.freed, hi.untouched⟩
  obtain ⟨-, ⟨_, hno, -⟩ | ⟨_, _, _, hno, -⟩ | ⟨_, _, hno, -⟩ | ⟨d, stack, -, -, rfl⟩⟩ :=
    State.step_cases h
  · cases hno
  · cases hno
  · cases hno
  · obtain ⟨hhandled, hrequests⟩ := State.handled_leave { s.client with stack } d
    intro h hh r hr
    rw [hhandled] at hh
    rw [hrequests] at hr
    exact hi.heard h hh r hr

theorem Inv.event (hi : Inv json s) {tag : Closure} {event : GrpcEvent}
    (hok : grpcOk s (.event tag event))
    {client : State ClientRequest GrpcContext GrpcEvent ClientCall}
    (h : s.client.step (grpcClient json) (.respond tag event) = some client) :
    Inv json { s with client } := by
  refine ⟨hi.client.step h, ?_, hi.late, hi.freed, hi.untouched⟩
  obtain ⟨-, ⟨_, hno, -⟩ | ⟨_, _, _, hno, -⟩ | ⟨_, _, htag, -, rfl⟩ | ⟨_, _, hno, -⟩⟩ :=
    State.step_cases h
  · cases hno
  · cases hno
  · cases htag
    obtain ⟨hhandled, hrequests⟩ := State.handled_respond (grpcClient json) s.client tag event
    intro h hh r hr
    rw [hhandled] at hh
    rw [hrequests] at hr
    rcases List.mem_append.1 hh with hh | hh
    · exact hi.heard h hh r hr
    · obtain rfl := List.mem_singleton.1 hh
      exact fun hsucceeded => hok hsucceeded r hr
  · cases hno

theorem Inv.destroy (hi : Inv json s) (ha : s.client.aborted = false) (hnone : s.client.contexts = []) :
    Ended s.destroy := by
  have htold := hi.allTold ha hnone
  have hdead : ∀ c : Closure, ¬ c.Live s.client.contexts := by
    rintro c ⟨ctx, hctx, -⟩
    rw [hnone] at hctx
    cases hctx
  refine ⟨?_, ?_, hi.late, hi.freed, hi.untouched, htold⟩
  · apply List.eq_nil_iff_forall_not_mem.2
    intro c hc
    exact hdead c (hi.client.held c hc).1
  · apply List.eq_nil_iff_forall_not_mem.2
    intro d hd
    obtain ⟨c, -, hc⟩ := hi.client.frames d hd
    exact hdead c hc

theorem destroyed_request (json : JsonLib) (s : GrpcState) (r : ClientRequest) (addr : Nat) (started : Bool) :
    (s.request json r addr started).destroyed = s.destroyed := by
  unfold GrpcState.request
  dsimp only
  split <;> rfl

/-- What one step can do. -/
theorem step_cases {s' : GrpcState} {a : GrpcAction} (h : s.step json a = some s') :
    s.client.aborted = false ∧
      ((s.destroyed = true ∧ s.client.stack ≠ [] ∧ a = .callbackReturns ∧
        s' = { s with touched := true }) ∨
      s.destroyed = false ∧
        ((∃ set, a = .setErrorCallback set ∧
          s' = { s with client := { s.client with fallback := set } }) ∨
        (∃ r addr started, a = .request r addr started ∧
          addr ∉ s.client.contexts.map Context.addr ∧ s' = s.request json r addr started) ∨
        (a = .disconnect ∧ s' = { s with shutdown := true }) ∨
        (∃ b client, (a = .callbackReturns ∧ b = .returns ∨
            ∃ tag event, a = .event tag event ∧ b = .respond tag event) ∧
          s.client.step (grpcClient json) b = some client ∧ s' = { s with client }) ∨
        a = .destroy ∧ s' = s.destroy)) := by
  unfold GrpcState.step at h
  split at h
  · cases h
  · next hfree =>
    rw [Bool.or_eq_true, not_or, Bool.not_eq_true, Bool.not_eq_true] at hfree
    refine ⟨hfree.1, ?_⟩
    split at h
    · next hd =>
      cases a <;> try cases h
      case callbackReturns =>
        simp only at h
        split at h <;> cases h
        next hst => exact .inl ⟨hd, hst, rfl, rfl⟩
    · next hd =>
      refine .inr ⟨Bool.eq_false_iff.2 hd, ?_⟩
      cases a with
      | setErrorCallback set => exact .inl ⟨set, rfl, (Option.some.inj h).symm⟩
      | request r addr started =>
        simp only at h
        split at h <;> cases h
        next haddr => exact .inr (.inl ⟨r, addr, started, rfl, haddr, rfl⟩)
      | disconnect => exact .inr (.inr (.inl ⟨rfl, (Option.some.inj h).symm⟩))
      | event tag event =>
        obtain ⟨client, hstep, rfl⟩ := Option.map_eq_some_iff.1 h
        exact .inr (.inr (.inr (.inl ⟨_, client, .inr ⟨tag, event, rfl, rfl⟩, hstep, rfl⟩)))
      | callbackReturns =>
        obtain ⟨client, hstep, rfl⟩ := Option.map_eq_some_iff.1 h
        exact .inr (.inr (.inr (.inl ⟨_, client, .inl ⟨rfl, rfl⟩, hstep, rfl⟩)))
      | destroy => exact .inr (.inr (.inr (.inr ⟨rfl, (Option.some.inj h).symm⟩)))

theorem Sound.step {s' : GrpcState} {a : GrpcAction} (hs : Sound json s) (hok : grpcOk s a)
    (h : s.step json a = some s') : Sound json s' := by
  obtain ⟨ha, ⟨hd, hst, -, -⟩ | ⟨hd, hcases⟩⟩ := step_cases h
  · rcases hs with ⟨hd', -⟩ | ⟨-, he⟩
    · rw [hd] at hd'
      cases hd'
    · exact absurd he.stack hst
  · rcases hs with ⟨-, hi⟩ | ⟨hd', -⟩
    · obtain ⟨set, -, rfl⟩ | ⟨r, addr, started, rfl, haddr, rfl⟩ | ⟨-, rfl⟩ |
        ⟨b, client, ⟨-, rfl⟩ | ⟨tag, event, rfl, rfl⟩, hstep, rfl⟩ | ⟨rfl, rfl⟩ := hcases
      · exact .inl ⟨hd, { hi.client with }, hi.heard, hi.late, hi.freed, hi.untouched⟩
      · exact .inl ⟨(destroyed_request json s r addr started).trans hd, hi.request ha haddr hok⟩
      · exact .inl ⟨hd, { hi with }⟩
      · exact .inl ⟨hd, hi.callbackReturns hstep⟩
      · exact .inl ⟨hd, hi.event hok hstep⟩
      · exact .inr ⟨rfl, hi.destroy ha hok⟩
    · rw [hd] at hd'
      cases hd'

/-! ## Proof -/

theorem inv_init (json : JsonLib) : Inv json {} where
  client := State.inv_init (grpcClient json)
  heard := by
    intro h hh
    cases hh
  late := rfl
  freed := rfl
  untouched := rfl

theorem Reach.sound (h : Reach (step json) grpcOk {} s) : Sound json s :=
  h.invariant (.inl ⟨rfl, inv_init json⟩) fun _ _ _ hs hok h => hs.step hok h

/-- In every run that keeps the condition the queue is used as it asks to be, and the end
finds nobody who has not been told. -/
theorem lifecycle (h : Reach (step json) grpcOk {} s) : Lifecycle s := by
  rcases Reach.sound h with ⟨hd, hi⟩ | ⟨hd, he⟩
  · refine ⟨hi.late, fun c hc => (hi.client.held c hc).1, hi.freed, hi.untouched, fun h => ?_⟩
    rw [hd] at h
    cases h
  · refine ⟨he.late, fun c hc => ?_, he.freed, he.untouched, fun _ => he.told⟩
    rw [he.outstanding] at hc
    cases hc

instance (s : GrpcState) : ∀ a : GrpcAction, Decidable (grpcOk s a)
  | .request r _ started => inferInstanceAs (Decidable (if r.op.noSession then
      r.errorCallback = true ∨ s.client.fallback = false
      else started = true → s.shutdown = false ∧ r.freesResponse = false))
  | .event tag event => inferInstanceAs (Decidable (event.succeeded = true →
      ∀ r ∈ s.client.requests[tag.request]?,
        r.successCallback = true ∨ r.errorCallback = false ∧ s.client.fallback = false))
  | .destroy => inferInstanceAs (Decidable (s.client.contexts = []))
  | .setErrorCallback _ | .disconnect | .callbackReturns => inferInstanceAs (Decidable True)

/-- Two calls, one of them answered in the callback of the other, and the end. -/
def answeredRun : List GrpcAction :=
  [.request ⟨.getAccount ⟨"token", "user"⟩, true, true⟩ 0 true,
   .request ⟨.joinGroup ⟨"token", "user"⟩ "group", false, true⟩ 1 true, .disconnect,
   .event ⟨1, 1⟩ { ok := true, errorCode := 5, errorMessage := "gone" },
   .event ⟨0, 0⟩ { ok := true }, .callbackReturns, .callbackReturns, .destroy]

theorem lifecycle_answeredRun : ∃ s, Reach (step RestState.accountJson) grpcOk {} s ∧
    s.destroyed = true ∧ s.client.responded = [1, 0] ∧ Lifecycle s := by
  have h : (exec (step RestState.accountJson) grpcOk {} answeredRun).isSome = true := by rfl
  have hreach := Reach.get_exec answeredRun h
  exact ⟨_, hreach, by rfl, by rfl, lifecycle hreach⟩

/-- A client that is destroyed while its call is on the way. -/
def abandonedRun : List GrpcAction :=
  [.request ⟨.getAccount ⟨"token", "user"⟩, true, true⟩ 0 true, .destroy]

/-- The destructor deletes the context of a call whose tag the queue still has. -/
theorem not_lifecycle : ¬ ∀ (json : JsonLib) (s : GrpcState),
    Reach (step json) anyStep {} s → Lifecycle s := by
  intro h
  have hrun : (exec (step RestState.accountJson) anyStep {} abandonedRun).isSome = true := by rfl
  obtain ⟨ctx, hctx, -⟩ := (h RestState.accountJson _ (Reach.get_exec abandonedRun hrun)).contexts
    _ List.mem_cons_self
  cases hctx

end GrpcState

end NakamaCpp.Rest
