import NakamaCpp.Http.HttpRun
import NakamaCpp.Rest.RestRun

/-!
# The REST client over its transport, and its end

`RestClient` over `NHttpClientCppRest`: the client of `RestRun` whose callbacks are held by
the pending and the finished requests of `HttpRun`.  `~RestClient` cancels the pending ones
and deletes the contexts that are left.  The user may keep the transport and go on ticking
it.

    Reach (step json) destroyOk {} s → s.destroyed → Settled json s    (settled)
-/

namespace NakamaCpp.Http

/-! ## Requests that have not been called back -/

def Frame.isCall : Frame → Bool
  | .tickCall => true
  | .cancelCall => true
  | _ => false

namespace HttpState

/-- The pending requests whose callback has not been invoked: not the one that
`cancelAllRequests` is calling back. -/
def uncalled (s : HttpState) : List ReqContext :=
  match s.stack with
  | .cancelCall :: _ => s.c.pendingRequests.tail
  | _ => s.c.pendingRequests

/-- Requests whose callback can still be invoked. -/
def waiting (s : HttpState) : List Nat :=
  (s.uncalled ++ s.c.finishedRequests).map ReqContext.request

/-- Callbacks that are running. -/
def callFrames (s : HttpState) : Nat := (s.stack.filter Frame.isCall).length

/-- What the user and the other threads do with the transport itself. -/
def ownAction : HttpAction → Bool
  | .setBaseUri .. | .tick | .cancelAllRequests | .pop | .cancelNext | .complete .. => true
  | _ => false

theorem uncalled_eq {s : HttpState} (h : ∀ stack, s.stack ≠ .cancelCall :: stack) :
    s.uncalled = s.c.pendingRequests := by
  unfold uncalled
  split
  · next stack hst => exact absurd hst (h stack)
  · rfl

theorem waiting_eq {s s' : HttpState} (h : ∀ stack, s.stack ≠ .cancelCall :: stack)
    (hst : s'.stack = s.stack) :
    s'.waiting = (s'.c.pendingRequests ++ s'.c.finishedRequests).map ReqContext.request := by
  unfold waiting
  rw [uncalled_eq (hst ▸ h)]

theorem Inv.uncalled_unlocked {s : HttpState} (hi : Inv s) (hl : s.locked = false) :
    s.uncalled = s.c.pendingRequests :=
  uncalled_eq (hi.not_cancelCall hl)

theorem uncalled_sublist (s : HttpState) : s.uncalled.Sublist s.c.pendingRequests := by
  unfold uncalled
  split
  · exact List.tail_sublist _
  · exact .refl _

theorem Inv.waiting_lt {s : HttpState} (hi : Inv s) {q : Nat} (hq : q ∈ s.waiting) :
    q < s.requests.length := by
  obtain ⟨ctx, hctx, rfl⟩ := List.mem_map.1 hq
  have hmem : ctx ∈ s.contexts := by
    unfold contexts
    rcases List.mem_append.1 hctx with h | h
    · exact List.mem_append_left _ (List.mem_append_left _ (s.uncalled_sublist.subset h))
    · exact List.mem_append_left _ (List.mem_append_right _ h)
  exact (List.getElem?_eq_some_iff.1 (hi.created ctx hmem)).1

/-- A finished request goes from one list to the other. -/
theorem waiting_finish {s : HttpState} (hst : ∀ stack, s.stack ≠ .cancelCall :: stack) (id : UInt64)
    (response : NHttpResponse) :
    (s.finish id response).waiting.Perm s.waiting ∧ (s.finish id response).requests = s.requests ∧
      (s.finish id response).invoked = s.invoked ∧ (s.finish id response).stack = s.stack := by
  refine ⟨?_, rfl, rfl, rfl⟩
  have hst' : ∀ stack, (s.finish id response).stack ≠ .cancelCall :: stack := hst
  unfold waiting
  rw [uncalled_eq hst, uncalled_eq hst']
  unfold HttpState.finish NHttpClientCppRest.finishReq
  cases hf : s.c.findPending id with
  | none => exact .refl _
  | some ctx =>
    obtain ⟨l₁, l₂, hp, hr, -⟩ := findPending_some hf
    simp only [hr, hp]
    refine List.perm_iff_count.2 fun a => ?_
    simp only [List.map_append, List.map_cons, List.map_nil, List.count_append, List.count_cons,
      List.count_nil]
    omega

/-- A new request waits. -/
theorem waiting_request {s : HttpState} (hst : ∀ stack, s.stack ≠ .cancelCall :: stack)
    (callback clientBuilt requestBuilt : Bool) :
    (s.request callback clientBuilt requestBuilt).waiting.Perm (s.requests.length :: s.waiting) ∧
      (s.request callback clientBuilt requestBuilt).invoked = s.invoked ∧
      (s.request callback clientBuilt requestBuilt).stack = s.stack ∧
      ∃ id, (s.request callback clientBuilt requestBuilt).requests = s.requests ++ [⟨id, callback⟩] := by
  have hnew : (((s.c.createReqContext s.requests.length callback).pendingRequests ++
      s.c.finishedRequests).map ReqContext.request).Perm (s.requests.length :: s.waiting) := by
    rw [waiting_eq hst rfl]
    refine List.perm_iff_count.2 fun a => ?_
    simp only [NHttpClientCppRest.createReqContext, List.map_append, List.map_cons, List.map_nil,
      List.count_append, List.count_cons, List.count_nil]
    omega
  obtain ⟨client, inFlight, h⟩ | ⟨response, h⟩ := request_cases s callback clientBuilt requestBuilt
  · rw [h]
    refine ⟨List.Perm.trans (.of_eq (waiting_eq hst ?_)) hnew, rfl, rfl, _, rfl⟩
    rfl
  · rw [h]
    obtain ⟨hperm, hreq, hinv, hstack⟩ := waiting_finish
      (s := { s with
        c := s.c.createReqContext s.requests.length callback
        requests := s.requests ++ [{ id := s.c.nextReqId, callback }] }) hst s.c.nextReqId response
    refine ⟨hperm.trans (List.Perm.trans (.of_eq (waiting_eq hst ?_)) hnew), hinv, hstack, _, hreq⟩
    rfl

/-- A callback that returns was not waiting any more. -/
theorem waiting_returns {s s' : HttpState} (h : s.step .callbackReturns = some s') :
    s'.waiting = s.waiting ∧ s'.requests = s.requests ∧ s'.invoked = s.invoked ∧
      s.callFrames = s'.callFrames + 1 := by
  cases steps_of_step h with
  | tickReturns stack hst =>
    refine ⟨?_, rfl, rfl, ?_⟩
    · unfold waiting uncalled
      rw [hst]
    · unfold callFrames
      rw [hst]
      rfl
  | cancelReturns stack hst =>
    unfold dropPending waiting uncalled callFrames
    rw [hst]
    cases hp : s.c.pendingRequests with
    | nil => exact ⟨by simp [hp], rfl, rfl, rfl⟩
    | cons ctx pending => exact ⟨by simp, rfl, rfl, rfl⟩

theorem selfLock_of_returns {s s' : HttpState} (h : s.step .callbackReturns = some s') :
    s.selfLock = false := by
  cases steps_of_step h with
  | tickReturns stack hst hself => exact hself
  | cancelReturns stack hst hself => exact hself

/-- What a step of the transport changes: nothing, or it invokes the callback of a
request that has been waiting. -/
def Passed (s s' : HttpState) : Prop :=
  s'.requests = s.requests ∧ (s.selfLock = true → s'.selfLock = true) ∧
    (s'.invoked = s.invoked ∧ s'.waiting.Perm s.waiting ∧ s'.callFrames = s.callFrames ∨
    ∃ i, s'.invoked = s.invoked ++ [i] ∧ s.waiting.Perm (i.request :: s'.waiting) ∧
      s'.callFrames = s.callFrames + 1 ∧ ∃ s'', s'.step .callbackReturns = some s'')

theorem Inv.callback_of_mem {s : HttpState} (hi : Inv s) (hcb : ∀ r ∈ s.requests, r.callback = true)
    {ctx : ReqContext} (h : ctx ∈ s.contexts) : ctx.callback = true :=
  hcb _ (List.mem_of_getElem? (hi.created ctx h))

theorem Inv.passed_pop {s : HttpState} (hi : Inv s) (hl : s.locked = false) (hself : s.selfLock = false)
    {stack : List Frame} (hst : s.stack = .tickLoop :: stack)
    (hcb : ∀ r ∈ s.requests, r.callback = true) : Passed s (s.pop stack) := by
  have hno := hi.not_cancelCall hl
  have hfree : ∀ stack', stack ≠ .cancelCall :: stack' := by
    intro stack' h
    have := hi.unlocked hl .cancelCall (hst ▸ List.mem_cons_of_mem _ (h ▸ List.mem_cons_self))
    cases this
  unfold HttpState.pop
  cases hfin : s.c.finishedRequests with
  | nil =>
    refine ⟨rfl, id, .inl ⟨rfl, ?_, ?_⟩⟩
    · unfold waiting
      rw [uncalled_eq hno, uncalled_eq hfree]
    · unfold callFrames
      rw [hst]
      rfl
  | cons ctx finished =>
    have hctx : ctx.callback = true := by
      apply hi.callback_of_mem hcb
      unfold contexts
      rw [hfin]
      exact List.mem_append_left _ (List.mem_append_right _ List.mem_cons_self)
    simp only [hctx, if_true]
    refine ⟨rfl, id, .inr ⟨_, rfl, ?_, ?_, ?_⟩⟩
    · unfold waiting
      rw [uncalled_eq hno]
      refine List.perm_iff_count.2 fun a => ?_
      simp only [hfin, uncalled, List.map_append, List.map_cons, List.count_append, List.count_cons]
      omega
    · unfold callFrames
      rw [hst]
      rfl
    · unfold HttpState.step
      simp only [hself, Bool.false_eq_true, if_false]
      exact ⟨_, rfl⟩

theorem Inv.passed_cancelNext {s : HttpState} (hi : Inv s) (hself : s.selfLock = false)
    {stack : List Frame} (hst : s.stack = .cancelLoop :: stack)
    (hcb : ∀ r ∈ s.requests, r.callback = true) : Passed s (s.cancelNext stack) := by
  have hno : ∀ stack', s.stack ≠ .cancelCall :: stack' := by
    intro stack' h
    rw [hst] at h
    cases h
  unfold HttpState.cancelNext
  cases hp : s.c.pendingRequests with
  | nil =>
    refine ⟨rfl, id, .inl ⟨rfl, ?_, ?_⟩⟩
    · unfold waiting
      rw [uncalled_eq hno]
      unfold uncalled
      rw [hp]
      split
      · exact .refl _
      · exact .refl _
    · unfold callFrames
      rw [hst]
      rfl
  | cons ctx pending =>
    have hctx : ctx.callback = true := by
      apply hi.callback_of_mem hcb
      unfold contexts
      rw [hp]
      exact List.mem_append_left _ (List.mem_append_left _ List.mem_cons_self)
    simp only [hctx, if_true]
    refine ⟨rfl, id, .inr ⟨_, rfl, ?_, ?_, ?_⟩⟩
    · unfold waiting
      rw [uncalled_eq hno]
      simp only [uncalled, hp, List.tail_cons, List.cons_append, List.map_cons]
      exact .refl _
    · unfold callFrames
      rw [hst]
      rfl
    · unfold HttpState.step
      simp only [hself, Bool.false_eq_true, if_false]
      exact ⟨_, rfl⟩

theorem Inv.passed_complete {s : HttpState} (hi : Inv s) (hl : s.locked = false) (id : UInt64)
    (completion : Completion) (inFlight : List Nat) :
    Passed s ({ s with inFlight }.continuation id true completion) := by
  have hfinish : ∀ response, Passed s ({ s with inFlight }.finish id response) := by
    intro response
    obtain ⟨hperm, hreq, hinv, hstack⟩ := waiting_finish (s := { s with inFlight })
      (hi.not_cancelCall hl) id response
    refine ⟨hreq, fun h => h, .inl ⟨hinv, hperm, ?_⟩⟩
    unfold callFrames
    rw [hstack]
  unfold HttpState.continuation
  split
  · simp only [if_true]
    split
    · exact hfinish _
    · exact hfinish _
  · exact hfinish _

/-- The steps of the transport. -/
theorem Inv.passed {s s' : HttpState} (hi : Inv s) (hcb : ∀ r ∈ s.requests, r.callback = true)
    {a : HttpAction} (hown : ownAction a = true) (h : s.step a = some s') : Passed s s' := by
  have hsame : ∀ s₁ : HttpState, s₁.requests = s.requests → s₁.invoked = s.invoked →
      (s.selfLock = true → s₁.selfLock = true) → s₁.waiting = s.waiting →
      s₁.callFrames = s.callFrames → Passed s s₁ :=
    fun s₁ hr hinv hself hw hf => ⟨hr, hself, .inl ⟨hinv, .of_eq hw, hf⟩⟩
  have hunlocked : ∀ s₁ : HttpState, s.locked = false → s₁.requests = s.requests →
      s₁.invoked = s.invoked → s₁.selfLock = s.selfLock → s₁.callFrames = s.callFrames →
      s₁.waiting = (s.c.pendingRequests ++ s.c.finishedRequests).map ReqContext.request →
      Passed s s₁ := by
    intro s₁ hl hr hinv hself hf hw
    refine hsame s₁ hr hinv (fun h => hself.trans h) ?_ hf
    rw [hw, waiting, hi.uncalled_unlocked hl]
  cases steps_of_step h with
  | setBaseUri uri same => exact hsame _ rfl rfl id rfl rfl
  | request => cases hown
  | requestLocked => cases hown
  | tick hu hl => exact hunlocked _ hl rfl rfl rfl rfl rfl
  | tickLocked => exact hsame _ rfl rfl (fun _ => rfl) rfl rfl
  | cancelAllRequests hu hl => exact hunlocked _ hl rfl rfl rfl rfl rfl
  | cancelLocked => exact hsame _ rfl rfl (fun _ => rfl) rfl rfl
  | pop stack hst hl hself => exact hi.passed_pop hl hself hst hcb
  | cancelNext stack hst hself => exact hi.passed_cancelNext hself hst hcb
  | tickReturns => cases hown
  | cancelReturns => cases hown
  | complete q completion r hq hl hr =>
    rw [hcb r (List.mem_of_getElem? hr)]
    exact hi.passed_complete hl r.id completion _

/-! ## The last cancelling -/

/-- `cancelAllRequests` runs outside all other calls, with nothing finished, or its thread
has locked itself out. -/
def Closing (s : HttpState) : Prop :=
  s.locked = true ∧ (s.selfLock = true ∨
    s.c.finishedRequests = [] ∧ (s.stack = [.cancelLoop] ∨ s.stack = [.cancelCall]))

/-- Nothing is left, and nothing runs. -/
def Closed (s : HttpState) : Prop :=
  s.locked = false ∧ s.stack = [] ∧ s.c.pendingRequests = [] ∧ s.c.finishedRequests = []

theorem closing_cancelNext {s : HttpState} (hl : s.locked = true) (hfin : s.c.finishedRequests = [])
    (hst : s.stack = [.cancelLoop]) : Closing (s.cancelNext []) ∨ Closed (s.cancelNext []) := by
  unfold cancelNext
  cases hp : s.c.pendingRequests with
  | nil => exact .inr ⟨rfl, rfl, hp, hfin⟩
  | cons ctx pending =>
    cases hcb : ctx.callback with
    | true =>
      refine .inl ?_
      simp only [hcb, if_true]
      exact ⟨hl, .inr ⟨hfin, .inr rfl⟩⟩
    | false =>
      refine .inl ?_
      simp only [hcb, Bool.false_eq_true, if_false, dropPending, hp]
      exact ⟨hl, .inr ⟨hfin, .inl hst⟩⟩

theorem closing_step {s s' : HttpState} {a : HttpAction} (hc : Closing s) (hown : ownAction a = true)
    (h : s.step a = some s') : Closing s' ∨ s.selfLock = false ∧ Closed s' := by
  obtain ⟨hl, hc⟩ := hc
  have hlocked : s.locked ≠ false := by
    rw [hl]
    exact Bool.noConfusion
  have hself : Closing { s with selfLock := true } := ⟨hl, .inl rfl⟩
  cases steps_of_step h with
  | setBaseUri uri same => exact .inl ⟨hl, hc⟩
  | request => cases hown
  | requestLocked => cases hown
  | tick hu hl => exact absurd hl hlocked
  | tickLocked => exact .inl hself
  | cancelAllRequests hu hl => exact absurd hl hlocked
  | cancelLocked => exact .inl hself
  | pop stack hst hl => exact absurd hl hlocked
  | cancelNext stack hst hs =>
    obtain ⟨hfin, hst' | hst'⟩ := hc.resolve_left (Bool.eq_false_iff.1 hs)
    · rw [hst] at hst'
      obtain ⟨-, rfl⟩ := List.cons.inj hst'
      exact (closing_cancelNext hl hfin hst).imp_right fun h => ⟨hs, h⟩
    · rw [hst] at hst'
      cases hst'
  | tickReturns => cases hown
  | cancelReturns => cases hown
  | complete q completion r hq hl => exact absurd hl hlocked

/-- With nothing waiting and no callback running, both lists are empty. -/
theorem lists_nil {s : HttpState} (hw : s.waiting = []) (hf : s.callFrames = 0) :
    s.c.pendingRequests ++ s.c.finishedRequests = [] := by
  have hno : ∀ stack, s.stack ≠ .cancelCall :: stack := by
    intro stack hst
    unfold callFrames at hf
    rw [hst] at hf
    cases hf
  unfold waiting at hw
  rw [uncalled_eq hno] at hw
  exact List.map_eq_nil_iff.1 hw

theorem closing_returns {s s' : HttpState} (hc : Closing s) (h : s.step .callbackReturns = some s') :
    Closing s' := by
  obtain ⟨hl, hc⟩ := hc
  obtain ⟨hfin, hstack⟩ := hc.resolve_left (Bool.eq_false_iff.1 (selfLock_of_returns h))
  cases steps_of_step h with
  | tickReturns stack hst =>
    rw [hst] at hstack
    rcases hstack with hstack | hstack <;> cases hstack
  | cancelReturns stack hst =>
    obtain rfl : stack = [] := by
      rw [hst] at hstack
      rcases hstack with hstack | hstack <;> cases hstack
      rfl
    unfold dropPending
    cases hp : s.c.pendingRequests with
    | nil => exact ⟨hl, .inr ⟨hfin, .inl rfl⟩⟩
    | cons ctx pending => exact ⟨hl, .inr ⟨hfin, .inl rfl⟩⟩

end HttpState

end NakamaCpp.Http

namespace NakamaCpp.Rest

open Transition Http Dispatch RestClient

/-! ## The run -/

structure ClientState where
  rest : RestState := {}
  http : HttpState := {}
  /-- the callback that came with each request of the transport -/
  closures : List Closure := []
  /-- `~RestClient` has been entered -/
  destroying : Bool := false
  destroyed : Bool := false
  /-- contexts that `~RestClient` has deleted -/
  dropped : List (Context RestContext) := []
  /-- a callback has used the client after its end -/
  touched : Bool := false

inductive ClientAction
  | setErrorCallback (set : Bool)
  /-- an operation, whose context is allocated at `addr`; `sent` says that it comes to the
  call of the transport, and what may throw there is as in `HttpAction` -/
  | request (r : ClientRequest) (addr : Nat) (sent clientBuilt requestBuilt : Bool)
  /-- `setBaseUri`, `tick` and `cancelAllRequests`, of the client or of the transport, a
  round of their loops, or a continuation -/
  | transport (a : HttpAction)
  | callbackReturns
  /-- `~RestClient` -/
  | destroy

namespace ClientState

/-- The client is there, and the thread is in code of the user. -/
def usable (s : ClientState) : Bool := s.http.userCode && !s.destroyed

/-- An operation; the transport locks its mutex before it takes the callback. -/
def request (json : JsonLib) (s : ClientState) (r : ClientRequest) (addr : Nat)
    (sent clientBuilt requestBuilt : Bool) : ClientState :=
  let q := s.rest.requests.length
  let kept := sent && !s.http.locked
  let s' := { s with rest := s.rest.request (restClient json) r addr kept }
  if r.op.noSession || !sent then s'
  else if s.http.locked then { s' with http := { s.http with selfLock := true } }
  else
    { s' with
      http := s.http.request true clientBuilt requestBuilt
      closures := s.closures ++ [⟨addr, q⟩] }

/-- The callback of the invocation, if `http` has come to one: `onResponse` of the client.
Where it calls nobody it returns at once.  `finishReq` has given every finished request a
response. -/
def enter (json : JsonLib) (s : ClientState) (http : HttpState) : ClientState :=
  match http.invoked[s.http.invoked.length]? with
  | none => { s with http }
  | some i =>
    if s.destroyed then { s with http, touched := true }
    else
      match s.closures[i.request]? with
      | none => { s with http }
      | some closure =>
        let response := i.response.getD {}
        let rest := s.rest.respond (restClient json) closure response
        if (s.rest.outcome (restClient json) closure response).calls = some [] then
          { s with rest, http := (http.step .callbackReturns).getD http }
        else { s with rest, http }

/-- The end of `~RestClient`, when `cancelAllRequests` is over. -/
def finishDestroy (s : ClientState) : ClientState :=
  if s.destroying && !s.destroyed && !s.http.locked then
    { s with
      destroyed := true
      dropped := s.rest.contexts
      rest := { s.rest with contexts := [] } }
  else s

def step (json : JsonLib) (s : ClientState) (a : ClientAction) : Option ClientState :=
  if s.rest.aborted || s.touched then none
  else
    match a with
    | .setErrorCallback set =>
      if s.usable then some { s with rest := { s.rest with fallback := set } } else none
    | .request r addr sent clientBuilt requestBuilt =>
      if s.usable = true ∧ addr ∉ s.rest.contexts.map Context.addr then
        some (s.request json r addr sent clientBuilt requestBuilt)
      else none
    | .transport a =>
      if HttpState.ownAction a then
        (s.http.step a).map fun http => (s.enter json http).finishDestroy
      else none
    | .callbackReturns =>
      (s.http.step .callbackReturns).bind fun http =>
        if s.destroyed then some { s with http, touched := true }
        else
          match s.rest.stack with
          | [] => none
          | deleted :: stack => some { s with http, rest := State.leave { s.rest with stack } deleted }
    | .destroy =>
      if s.usable && !s.destroying then
        (s.http.step .cancelAllRequests).map fun http => { s with http, destroying := true }
      else none

/-! ## What is settled -/

/-- Request `q` has got the one outcome that its response gives. -/
def HasOutcome (json : JsonLib) (rest : RestState) (q : Nat) : Prop :=
  ∃ h response calls r, rest.handledFor q = [h] ∧ h.response = some response ∧
    h.calls = some calls ∧ rest.requests[q]? = some r ∧
    Answered json q r.successCallback r.errorCallback r.op.responseType h.fallback response calls

/-- Every request has its outcome, and nothing leads back to the client. -/
structure Settled (json : JsonLib) (s : ClientState) : Prop where
  outcomes : ∀ q, s.rest.hasContext (restClient json) q = true → HasOutcome json s.rest q
  noCallback : ∀ ctx ∈ s.http.c.pendingRequests ++ s.http.c.finishedRequests, ctx.callback = false
  untouched : s.touched = false

/-- The callbacks that the transport holds in its pending requests. -/
def pendingClosures (s : ClientState) : List Closure :=
  s.http.c.pendingRequests.filterMap fun ctx => s.closures[ctx.request]?

/-- The destructor is called outside all callbacks, when nothing is finished that has not
been delivered, and the callback of every context is with the transport.  No operation
throws in the callbacks of the destructor before it comes to the transport. -/
def destroyOk (s : ClientState) : ClientAction → Prop
  | .destroy => s.http.stack = [] ∧ s.http.c.finishedRequests = [] ∧
      ∀ ctx ∈ s.rest.contexts, (⟨ctx.addr, ctx.request⟩ : Closure) ∈ s.pendingClosures
  | .request r _ sent _ _ => s.destroying = true → r.op.noSession = true ∨ sent = true
  | _ => True

/-! ## Invariant -/

/-- The callbacks that came with the given requests of the transport. -/
def closuresOf (closures : List Closure) (requests : List Nat) : List Closure :=
  requests.filterMap fun q => closures[q]?

/-- What client and transport know of each other, while there is a client. -/
structure Inv (json : JsonLib) (s : ClientState) : Prop where
  rest : State.Inv (restClient json) s.rest
  http : HttpState.Inv s.http
  length : s.closures.length = s.http.requests.length
  callbacks : ∀ r ∈ s.http.requests, r.callback = true
  held : s.rest.outstanding.Perm (closuresOf s.closures s.http.waiting)
  frames : s.rest.aborted = false → s.http.callFrames = s.rest.stack.length
  untouched : s.touched = false
  closing : s.destroying = true → s.http.Closing
  covered : s.destroying = true → s.http.selfLock = false → s.rest.aborted = false → s.rest.Covered

/-- What is left when the client has gone. -/
structure Ended (json : JsonLib) (s : ClientState) : Prop where
  settled : Settled json s
  callbacks : ∀ r ∈ s.http.requests, r.callback = true
  http : HttpState.Inv s.http
  waiting : s.http.waiting = []
  frames : s.http.callFrames = 0

theorem inv_init (json : JsonLib) : Inv json {} where
  rest := State.inv_init (restClient json)
  http := HttpState.inv_init
  length := rfl
  callbacks := by
    intro r hr
    cases hr
  held := .refl _
  frames := fun _ => rfl
  untouched := rfl
  closing := by
    intro h
    cases h
  covered := by
    intro h
    cases h

theorem closuresOf_append {closures : List Closure} (c : Closure) {requests : List Nat}
    (h : ∀ q ∈ requests, q < closures.length) :
    closuresOf (closures ++ [c]) requests = closuresOf closures requests := by
  unfold closuresOf
  apply List.filterMap_congr
  intro q hq
  rw [List.getElem?_append_left (h q hq)]

variable {json : JsonLib} {s : ClientState}

theorem Inv.closure (hi : Inv json s) {q : Nat} (hq : q ∈ s.http.waiting) :
    ∃ c, s.closures[q]? = some c ∧ c ∈ s.rest.outstanding := by
  have hlt : q < s.closures.length := by
    rw [hi.length]
    exact hi.http.waiting_lt hq
  refine ⟨s.closures[q], List.getElem?_eq_getElem hlt, hi.held.mem_iff.2 ?_⟩
  exact List.mem_filterMap.2 ⟨q, hq, List.getElem?_eq_getElem hlt⟩

/-! ## Operations -/

theorem request_refused (json : JsonLib) (rest : RestState) {r : ClientRequest} (hn : r.op.noSession = true)
    (addr : Nat) (kept : Bool) :
    (rest.request (restClient json) r addr kept).outstanding = rest.outstanding ∧
      (rest.request (restClient json) r addr kept).stack = rest.stack ∧
      (rest.request (restClient json) r addr kept).aborted = rest.aborted ∧
      (rest.request (restClient json) r addr kept).contexts = rest.contexts := by
  unfold State.request
  rw [RestState.fill_eq_none.2 hn]
  exact ⟨rfl, rfl, rfl, rfl⟩

theorem request_created (json : JsonLib) (rest : RestState) {r : ClientRequest} (hn : r.op.noSession = false)
    (addr : Nat) (kept : Bool) :
    (rest.request (restClient json) r addr kept).outstanding =
        rest.outstanding ++ (if kept then [⟨addr, rest.requests.length⟩] else []) ∧
      (rest.request (restClient json) r addr kept).stack = rest.stack ∧
      (rest.request (restClient json) r addr kept).aborted = rest.aborted := by
  unfold State.request
  rw [RestState.fill_of_session hn]
  exact ⟨rfl, rfl, rfl⟩

/-- The operation ends before the transport has the callback. -/
theorem Inv.request_unsent (hi : Inv json s) (ha : s.rest.aborted = false) {r : ClientRequest}
    {addr : Nat} (hn : r.op.noSession = false) (haddr : addr ∉ s.rest.contexts.map Context.addr)
    (selfLock : Bool) (hself : s.destroying = true → selfLock = true ∧ s.http.locked = true) :
    Inv json { s with
      rest := s.rest.request (restClient json) r addr false, http := { s.http with selfLock } } := by
  obtain ⟨hout, hstack, hab⟩ := request_created json s.rest hn addr false
  refine { hi with
    rest := hi.rest.request ha r false haddr, http := { hi.http with }, held := ?_, frames := ?_
    closing := ?_, covered := ?_ }
  · show (s.rest.request (restClient json) r addr false).outstanding.Perm _
    rw [hout]
    exact (List.append_nil _).symm ▸ hi.held
  · intro _
    show _ = (s.rest.request (restClient json) r addr false).stack.length
    rw [hstack]
    exact hi.frames ha
  · intro hd
    exact ⟨(hself hd).2, .inl (hself hd).1⟩
  · intro hd hs
    have hs : selfLock = false := hs
    rw [(hself hd).1] at hs
    cases hs

/-- The operation hands its callback to the transport. -/
theorem Inv.request_sent (hi : Inv json s) (ha : s.rest.aborted = false) {r : ClientRequest}
    {addr : Nat} (hn : r.op.noSession = false) (haddr : addr ∉ s.rest.contexts.map Context.addr)
    (hl : s.http.locked = false) (clientBuilt requestBuilt : Bool) :
    Inv json { s with
      rest := s.rest.request (restClient json) r addr true
      http := s.http.request true clientBuilt requestBuilt
      closures := s.closures ++ [⟨addr, s.rest.requests.length⟩] } := by
  obtain ⟨hout, hstack, hab⟩ := request_created json s.rest hn addr true
  obtain ⟨hwait, -, hst, id, hreq⟩ :=
    HttpState.waiting_request (hi.http.not_cancelCall hl) true clientBuilt requestBuilt
  have hnot : s.destroying = true → False := by
    intro hd
    have := (hi.closing hd).1
    rw [hl] at this
    cases this
  refine ⟨hi.rest.request ha r true haddr, hi.http.request hl _ _ _, ?_, ?_, ?_, ?_, hi.untouched,
    fun hd => (hnot hd).elim, fun hd => (hnot hd).elim⟩
  · show (s.closures ++ _).length = (s.http.request true clientBuilt requestBuilt).requests.length
    rw [hreq, List.length_append, List.length_append, hi.length]
    rfl
  · show ∀ r ∈ (s.http.request true clientBuilt requestBuilt).requests, r.callback = true
    rw [hreq]
    intro r hr
    rcases List.mem_append.1 hr with hr | hr
    · exact hi.callbacks r hr
    · rw [List.mem_singleton.1 hr]
  · show (s.rest.request (restClient json) r addr true).outstanding.Perm
      (closuresOf (s.closures ++ [⟨addr, s.rest.requests.length⟩])
        (s.http.request true clientBuilt requestBuilt).waiting)
    have hlt : ∀ q ∈ s.http.waiting, q < s.closures.length := by
      intro q hq
      rw [hi.length]
      exact hi.http.waiting_lt hq
    rw [hout, if_pos rfl]
    refine List.Perm.trans ?_ (hwait.filterMap _).symm
    have hnew : (s.closures ++ [⟨addr, s.rest.requests.length⟩])[s.http.requests.length]? =
        some ⟨addr, s.rest.requests.length⟩ := by
      rw [← hi.length]
      exact State.getElem?_last _ _
    rw [List.filterMap_cons_some hnew]
    have hold := closuresOf_append ⟨addr, s.rest.requests.length⟩ hlt
    unfold closuresOf at hold
    rw [hold]
    exact List.perm_append_comm.trans (.cons _ hi.held)
  · intro _
    show (s.http.request true clientBuilt requestBuilt).callFrames =
      (s.rest.request (restClient json) r addr true).stack.length
    rw [hstack, ← hi.frames ha]
    unfold HttpState.callFrames
    rw [hst]

theorem Inv.request (hi : Inv json s) (ha : s.rest.aborted = false) {r : ClientRequest} {addr : Nat}
    {sent : Bool} (clientBuilt requestBuilt : Bool) (haddr : addr ∉ s.rest.contexts.map Context.addr)
    (hok : s.destroying = true → r.op.noSession = true ∨ sent = true) :
    Inv json (s.request json r addr sent clientBuilt requestBuilt) := by
  unfold ClientState.request
  cases hn : r.op.noSession with
  | true =>
    obtain ⟨hout, hstack, hab, hcontexts⟩ :=
      request_refused json s.rest hn addr (sent && !s.http.locked)
    refine { hi with
      rest := hi.rest.request ha r _ haddr, held := ?_, frames := ?_, covered := ?_ }
    · exact (congrArg (fun l => List.Perm l _) hout).mpr hi.held
    · intro _
      exact (hi.frames ha).trans (congrArg List.length hstack).symm
    · intro hd hself _ ctx hctx
      have hcovered := hi.covered hd hself ha ctx (hcontexts ▸ hctx)
      unfold State.running at hcovered ⊢
      rw [← hout, ← hstack] at hcovered
      exact hcovered
  | false =>
    cases hsent : sent with
    | false =>
      refine hi.request_unsent ha hn haddr s.http.selfLock fun hd => ?_
      rcases hok hd with h | h
      · rw [hn] at h
        cases h
      · rw [hsent] at h
        cases h
    | true =>
      cases hl : s.http.locked with
      | true => exact hi.request_unsent ha hn haddr true fun _ => ⟨rfl, hl⟩
      | false => exact hi.request_sent ha hn haddr hl clientBuilt requestBuilt

/-! ## Callbacks -/

/-- The callback that the transport invokes is taken off what it holds. -/
theorem Inv.held_erase (hi : Inv json s) {http : HttpState} {q : Nat}
    (hwait : s.http.waiting.Perm (q :: http.waiting)) {c : Closure} (hc : s.closures[q]? = some c) :
    (s.rest.outstanding.erase c).Perm (closuresOf s.closures http.waiting) := by
  have hperm := hi.held.trans (hwait.filterMap _)
  rw [List.filterMap_cons_some hc] at hperm
  have := hperm.erase c
  rwa [List.erase_cons_head] at this

theorem enter_same {http : HttpState} (hinv : http.invoked = s.http.invoked) :
    s.enter json http = { s with http } := by
  unfold enter
  rw [hinv, List.getElem?_eq_none le_rfl]

/-- A step of the transport, with the callback that it may invoke. -/
theorem Inv.enter (hi : Inv json s) (ha : s.rest.aborted = false) (hd : s.destroyed = false)
    {http : HttpState} (hh : HttpState.Inv http) (hp : HttpState.Passed s.http http)
    (hc : s.destroying = true → http.Closing) : Inv json (s.enter json http) := by
  obtain ⟨hreq, hself, ⟨hinv, hwait, hframes⟩ | ⟨i, hinv, hwait, hframes, http', hreturns⟩⟩ := hp
  · rw [enter_same hinv]
    refine ⟨hi.rest, hh, by rw [hi.length, hreq], by rw [hreq]; exact hi.callbacks,
      hi.held.trans (hwait.filterMap _).symm, fun _ => hframes.trans (hi.frames ha), hi.untouched,
      hc, fun hds hs => hi.covered hds ?_⟩
    cases hold : s.http.selfLock with
    | true =>
      rw [hself hold] at hs
      cases hs
    | false => rfl
  · obtain ⟨c, hclosure, hmem⟩ := hi.closure (hwait.mem_iff.2 List.mem_cons_self)
    have hlast : http.invoked[s.http.invoked.length]? = some i := by
      rw [hinv, List.getElem?_append_right le_rfl, Nat.sub_self]
      rfl
    obtain ⟨hwait', hreq', hinv', hframes'⟩ := HttpState.waiting_returns hreturns
    have hrest := hi.rest.respond ha hmem (i.response.getD {})
    obtain ⟨hout, hcases⟩ := State.respond_cases hi.rest hmem (i.response.getD {})
    have hheld := hi.held_erase hwait hclosure
    have hcovered : s.destroying = true → http.selfLock = false →
        (∃ calls, (s.rest.outcome (restClient json) c (i.response.getD {})).calls = some calls) →
        (s.rest.respond (restClient json) c (i.response.getD {})).Covered := by
      intro hds hs hcalls
      refine State.covered_respond hi.rest (hi.covered hds ?_ ha) ha hmem _ hcalls
      cases hold : s.http.selfLock with
      | true =>
        rw [hself hold] at hs
        cases hs
      | false => rfl
    unfold ClientState.enter
    simp only [hlast, hd, Bool.false_eq_true, if_false, hclosure]
    rcases hcases with ⟨hcalls, hab⟩ | ⟨hcalls, hstack, hab⟩ | ⟨call, calls, hcalls, hstack, hab⟩
    · rw [if_neg (by rw [hcalls]; intro h; cases h)]
      refine ⟨hrest, hh, by rw [hi.length, hreq], by rw [hreq]; exact hi.callbacks,
        by rw [hout]; exact hheld, fun hna => ?_, hi.untouched, hc, fun _ _ hna => ?_⟩
      · rw [hab] at hna
        cases hna
      · rw [hab] at hna
        cases hna
    · rw [if_pos hcalls, hreturns, Option.getD_some]
      refine ⟨hrest, hh.step hreturns, by rw [hreq', hi.length, hreq],
        by rw [hreq', hreq]; exact hi.callbacks, by rw [hout, hwait']; exact hheld, fun _ => ?_,
        hi.untouched, fun hds => HttpState.closing_returns (hc hds) hreturns, fun hds hs _ => ?_⟩
      · have hold := hi.frames ha
        show http'.callFrames = _
        rw [hstack]
        omega
      · exact hcovered hds (HttpState.selfLock_of_returns hreturns) ⟨_, hcalls⟩
    · rw [if_neg (by rw [hcalls]; intro h; cases h)]
      refine ⟨hrest, hh, by rw [hi.length, hreq], by rw [hreq]; exact hi.callbacks,
        by rw [hout]; exact hheld, fun _ => ?_, hi.untouched, hc,
        fun hds hs _ => hcovered hds hs ⟨_, hcalls⟩⟩
      rw [hstack, List.length_cons, hframes, hi.frames ha]

/-- A callback of the client returns. -/
theorem Inv.callbackReturns (hi : Inv json s) (ha : s.rest.aborted = false) {http : HttpState}
    (h : s.http.step .callbackReturns = some http) {d : Option Closure}
    {stack : List (Option Closure)} (hst : s.rest.stack = d :: stack) :
    Inv json { s with http, rest := State.leave { s.rest with stack } d } := by
  obtain ⟨hwait, hreq, -, hframes⟩ := HttpState.waiting_returns h
  obtain ⟨c, rfl, -⟩ := hi.rest.frames d (hst ▸ List.mem_cons_self)
  refine ⟨hi.rest.returns ha hst, hi.http.step h, by rw [hi.length, hreq],
    by rw [hreq]; exact hi.callbacks, by rw [hwait]; exact hi.held, fun _ => ?_, hi.untouched,
    fun hd => HttpState.closing_returns (hi.closing hd) h, fun hd hs _ => ?_⟩
  · have hold := hi.frames ha
    rw [hst, List.length_cons] at hold
    show http.callFrames = stack.length
    omega
  · exact State.covered_leave hi.rest (hi.covered hd (HttpState.selfLock_of_returns h) ha) hst

/-! ## The destructor -/

theorem Inv.destroy (hi : Inv json s) (ha : s.rest.aborted = false) {http : HttpState}
    (h : s.http.step .cancelAllRequests = some http) (hok : destroyOk s .destroy) :
    Inv json { s with http, destroying := true } := by
  obtain ⟨hst, hfin, hpending⟩ := hok
  obtain ⟨hreq, hself, ⟨-, hwait, hframes⟩ | ⟨i, -, hwait, -, -⟩⟩ := hi.http.passed hi.callbacks rfl h
  · have hl : s.http.locked = false := by
      cases hl : s.http.locked with
      | true =>
        obtain ⟨f, stack, hs, -⟩ := hi.http.locked hl
        rw [hst] at hs
        cases hs
      | false => rfl
    have hhttp : http.c.finishedRequests = [] ∧ http.locked = true ∧ http.stack = [.cancelLoop] := by
      cases HttpState.steps_of_step h with
      | cancelAllRequests => exact ⟨hfin, rfl, by rw [hst]⟩
      | cancelLocked hu hlocked =>
        rw [hl] at hlocked
        cases hlocked
    refine ⟨hi.rest, hi.http.step h, by rw [hi.length, hreq], by rw [hreq]; exact hi.callbacks,
      hi.held.trans (hwait.filterMap _).symm, fun _ => hframes.trans (hi.frames ha), hi.untouched,
      fun _ => ⟨hhttp.2.1, .inr ⟨hhttp.1, .inl hhttp.2.2⟩⟩, fun _ _ _ ctx hctx => .inl ?_⟩
    refine hi.held.mem_iff.2 ?_
    have huncalled := hi.http.uncalled_unlocked hl
    obtain ⟨x, hx, hclosure⟩ := List.mem_filterMap.1 (hpending ctx hctx)
    refine List.mem_filterMap.2 ⟨x.request, ?_, hclosure⟩
    unfold HttpState.waiting
    rw [huncalled]
    exact List.mem_map_of_mem (List.mem_append_left _ hx)
  · have hw : http.waiting = s.http.waiting := by
      cases HttpState.steps_of_step h with
      | cancelAllRequests hu hl =>
        unfold HttpState.waiting
        rw [hi.http.uncalled_unlocked hl]
        rfl
      | cancelLocked => rfl
    have := hwait.length_eq
    rw [hw, List.length_cons] at this
    omega

/-- The destructor comes to its end with every request answered. -/
theorem Inv.ended (hi : Inv json s) (ha : s.rest.aborted = false) (hd : s.destroying = true)
    (hself : s.http.selfLock = false) {http : HttpState} (hh : HttpState.Inv http)
    (hp : HttpState.Passed s.http http) (hc : http.Closed) :
    Ended json { s with
      http, destroyed := true, dropped := s.rest.contexts
      rest := { s.rest with contexts := [] } } ∧ s.enter json http = { s with http } := by
  obtain ⟨-, hst, hpending, hfin⟩ := hc
  have hcalls : http.callFrames = 0 := by
    unfold HttpState.callFrames
    rw [hst]
    rfl
  have hwaiting : http.waiting = [] := by
    unfold HttpState.waiting
    rw [HttpState.uncalled_eq (by rw [hst]; intro stack h; cases h), hpending, hfin]
    rfl
  obtain ⟨hreq, -, ⟨hinv, hwait, hframes⟩ | ⟨i, -, -, hframes, -⟩⟩ := hp
  · refine ⟨⟨⟨fun q hq => ?_, ?_, hi.untouched⟩, by rw [hreq]; exact hi.callbacks, hh, hwaiting, hcalls⟩,
      enter_same hinv⟩
    · have hout : s.rest.outstanding = [] := by
        have hempty : s.http.waiting = [] := by
          rw [hwaiting] at hwait
          exact hwait.symm.eq_nil
        have := hi.held
        rw [hempty] at this
        exact this.eq_nil
      have hrunning : s.rest.stack = [] := by
        have := hi.frames ha
        rw [← hframes, hcalls] at this
        exact List.length_eq_zero_iff.1 this.symm
      have hnone : s.rest.contexts = [] := by
        apply List.eq_nil_iff_forall_not_mem.2
        intro ctx hctx
        rcases hi.covered hd hself ha ctx hctx with h | h
        · rw [hout] at h
          cases h
        · unfold State.running at h
          rw [hrunning] at h
          cases h
      have hfinished := hi.rest.finished_of_nil hnone hq
      obtain ⟨h, response, calls, hfilter, hreq, hresponse, hcalls, hrecorded⟩ :=
        hi.rest.handled_finished ha hfinished
      obtain ⟨r, hr, -, -, hanswered⟩ := RestState.answered_of_recorded hrecorded hresponse
      rw [hreq] at hr hanswered
      exact ⟨h, response, calls, r, hfilter, hresponse, hcalls, hr, hanswered calls hcalls⟩
    · rw [hpending, hfin]
      intro ctx hctx
      cases hctx
  · omega

/-! ## Proof -/

theorem enter_flags (s : ClientState) (http : HttpState) :
    (s.enter json http).destroying = s.destroying ∧ (s.enter json http).destroyed = s.destroyed := by
  unfold enter
  split
  · exact ⟨rfl, rfl⟩
  · split
    · exact ⟨rfl, rfl⟩
    · split
      · exact ⟨rfl, rfl⟩
      · dsimp only
        split <;> exact ⟨rfl, rfl⟩

/-- The client is there and well, or it has ended well. -/
def Sound (json : JsonLib) (s : ClientState) : Prop :=
  s.destroyed = false ∧ Inv json s ∨ s.destroyed = true ∧ Ended json s

theorem finishDestroy_eq (h : s.destroying = true → s.http.locked = true) : s.finishDestroy = s := by
  unfold finishDestroy
  split
  · next hd =>
    simp only [Bool.and_eq_true, Bool.not_eq_true'] at hd
    rw [h hd.1.1] at hd
    cases hd.2
  · rfl

/-- A step of the transport under a living client. -/
theorem Inv.transport (hi : Inv json s) (ha : s.rest.aborted = false) (hd : s.destroyed = false)
    {a : HttpAction} (hown : HttpState.ownAction a = true) {http : HttpState}
    (h : s.http.step a = some http) : Sound json (s.enter json http).finishDestroy := by
  have hp := hi.http.passed hi.callbacks hown h
  have hh := hi.http.step h
  have hdone : (s.destroying = true → http.Closing) →
      Sound json (s.enter json http).finishDestroy := by
    intro hc
    have hs := hi.enter ha hd hh hp hc
    rw [finishDestroy_eq fun hd => (hs.closing hd).1]
    exact .inl ⟨(enter_flags s http).2.trans hd, hs⟩
  cases hds : s.destroying with
  | false =>
    refine hdone fun h => ?_
    rw [hds] at h
    cases h
  | true =>
    rcases HttpState.closing_step (hi.closing hds) hown h with hc | ⟨hself, hc⟩
    · exact hdone fun _ => hc
    · obtain ⟨hended, hs⟩ := hi.ended ha hds hself hh hp hc
      refine .inr ?_
      rw [hs]
      unfold finishDestroy
      rw [if_pos (by simp only [hds, hd, hc.1, Bool.not_false, Bool.and_self])]
      exact ⟨rfl, hended⟩

/-- A step of the transport without the client. -/
theorem Ended.transport (he : Ended json s) (hd : s.destroyed = true) {a : HttpAction}
    (hown : HttpState.ownAction a = true) {http : HttpState} (h : s.http.step a = some http) :
    Sound json (s.enter json http).finishDestroy := by
  obtain ⟨hreq, -, ⟨hinv, hwait, hframes⟩ | ⟨i, -, hwait, -⟩⟩ := he.http.passed he.callbacks hown h
  · have hs : (s.enter json http).finishDestroy = { s with http } := by
      rw [enter_same hinv]
      unfold finishDestroy
      simp only [hd, Bool.not_true, Bool.and_false, Bool.false_and, Bool.false_eq_true, if_false]
    rw [hs]
    rw [he.waiting] at hwait
    have hw := hwait.eq_nil
    have hf := hframes.trans he.frames
    refine .inr ⟨hd, ⟨he.settled.outcomes, ?_, he.settled.untouched⟩, by rw [hreq]; exact he.callbacks,
      he.http.step h, hw, hf⟩
    rw [HttpState.lists_nil hw hf]
    intro ctx hctx
    cases hctx
  · rw [he.waiting] at hwait
    cases hwait.symm.eq_nil

theorem Sound.step {s' : ClientState} {a : ClientAction} (hs : Sound json s) (hok : destroyOk s a)
    (h : s.step json a = some s') : Sound json s' := by
  unfold ClientState.step at h
  split at h
  · cases h
  · next hfree =>
    rw [Bool.or_eq_true, not_or, Bool.not_eq_true, Bool.not_eq_true] at hfree
    have ha := hfree.1
    have halive : s.usable = true → s.destroyed = false ∧ Inv json s := by
      intro hu
      unfold usable at hu
      rw [Bool.and_eq_true, Bool.not_eq_true'] at hu
      rcases hs with hs | ⟨hd, -⟩
      · exact hs
      · rw [hd] at hu
        cases hu.2
    cases a with
    | setErrorCallback set =>
      simp only at h
      split at h
      · next hu =>
        obtain rfl := Option.some.inj h
        obtain ⟨hd, hi⟩ := halive hu
        exact .inl ⟨hd, { hi with rest := { hi.rest with }, covered := hi.covered }⟩
      · cases h
    | request r addr sent clientBuilt requestBuilt =>
      simp only at h
      split at h
      · next hu =>
        obtain rfl := Option.some.inj h
        obtain ⟨hd, hi⟩ := halive hu.1
        refine .inl ⟨?_, hi.request ha clientBuilt requestBuilt hu.2 hok⟩
        unfold ClientState.request
        dsimp only
        split
        · exact hd
        · split <;> exact hd
      · cases h
    | transport a =>
      simp only at h
      split at h
      · next hown =>
        obtain ⟨http, hstep, rfl⟩ := Option.map_eq_some_iff.1 h
        rcases hs with ⟨hd, hi⟩ | ⟨hd, he⟩
        · exact hi.transport ha hd hown hstep
        · exact he.transport hd hown hstep
      · cases h
    | callbackReturns =>
      obtain ⟨http, hstep, h⟩ := Option.bind_eq_some_iff.1 h
      rcases hs with ⟨hd, hi⟩ | ⟨hd, he⟩
      · rw [if_neg (by rw [hd]; exact Bool.false_ne_true)] at h
        split at h
        · cases h
        · next d stack hst =>
          obtain rfl := Option.some.inj h
          exact .inl ⟨hd, hi.callbackReturns ha hstep hst⟩
      · obtain ⟨-, -, -, hframes⟩ := HttpState.waiting_returns hstep
        rw [he.frames] at hframes
        omega
    | destroy =>
      simp only at h
      split at h
      · next hu =>
        rw [Bool.and_eq_true] at hu
        obtain ⟨http, hstep, rfl⟩ := Option.map_eq_some_iff.1 h
        obtain ⟨hd, hi⟩ := halive hu.1
        exact .inl ⟨hd, hi.destroy ha hstep hok⟩
      · cases h

theorem Reach.sound (h : Reach (step json) destroyOk {} s) : Sound json s :=
  h.invariant (.inl ⟨rfl, inv_init json⟩) fun _ _ _ hs hok h => hs.step hok h

/-- A client that is destroyed under the condition has answered every request, and nothing
that happens later finds a way back to it. -/
theorem settled (h : Reach (step json) destroyOk {} s) (hd : s.destroyed = true) : Settled json s := by
  rcases Reach.sound h with ⟨hf, -⟩ | ⟨-, he⟩
  · rw [hd] at hf
    cases hf
  · exact he.settled

instance (s : ClientState) : ∀ a : ClientAction, Decidable (destroyOk s a)
  | .destroy => inferInstanceAs (Decidable (_ ∧ _ ∧ _))
  | .request .. => inferInstanceAs (Decidable (_ → _))
  | .setErrorCallback _ | .transport _ | .callbackReturns => inferInstanceAs (Decidable True)

/-- A request that is cancelled by the destructor; the user ticks the transport once more. -/
def cancelledRun : List ClientAction :=
  [.transport (.setBaseUri "http://127.0.0.1:7350" false), .setErrorCallback true,
   .request ⟨.getAccount ⟨"token", "user"⟩, true, false⟩ 0 true true true, .destroy,
   .transport .cancelNext, .callbackReturns, .transport .cancelNext, .transport .tick,
   .transport .pop]

theorem settled_cancelledRun : ∃ s, Reach (step RestState.accountJson) destroyOk {} s ∧
    s.destroyed = true ∧ s.rest.responded = [0] ∧ Settled RestState.accountJson s := by
  have h : (exec (step RestState.accountJson) destroyOk {} cancelledRun).isSome = true := by rfl
  have hreach := Reach.get_exec cancelledRun h
  exact ⟨_, hreach, by rfl, by rfl, settled hreach (by rfl)⟩

/-- A response that has arrived, but has not been delivered when the client is destroyed. -/
def finishedRun : List ClientAction :=
  [.transport (.setBaseUri "http://127.0.0.1:7350" false),
   .request ⟨.getAccount ⟨"token", "user"⟩, true, true⟩ 0 true true true,
   .transport (.complete 0 (.responded 200 "OK" (.ok "{}"))), .destroy, .transport .cancelNext,
   .transport .tick, .transport .pop]

/-- The next tick calls into the client that was destroyed. -/
theorem not_settled : ¬ ∀ (json : JsonLib) (s : ClientState),
    Reach (step json) anyStep {} s → s.destroyed = true → Settled json s := by
  intro h
  have hrun : (exec (step RestState.accountJson) anyStep {} finishedRun).isSome = true := by rfl
  have hs := h RestState.accountJson _ (Reach.get_exec finishedRun hrun) (by rfl)
  cases hs.untouched

end ClientState

end NakamaCpp.Rest
