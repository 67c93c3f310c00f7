import NakamaCpp.Lib.Dispatch
import NakamaCpp.Rest.RestResponse

/-!
# Runs of the REST client over any transport

`RestClient` as a client in the sense of `Dispatch`: the contexts of its requests are in
`_reqContexts` and in the callbacks that the transport got with the requests.  The
transport invokes each callback at most once, whenever it likes; it may drop one, and it
may have kept the callback of a call that it made throw.  An operation that throws earlier
leaves a context that nobody asks for.

    Reach (step json) (restOk json) {} s  →  Delivered json s         (delivered)
-/

namespace NakamaCpp.Rest

open Transition Http Dispatch RestClient

/-! ## The run -/

/-- What `RestClient` puts into a context, and `onResponse`. -/
def restClient (json : JsonLib) : Client ClientRequest RestContext NHttpResponse ClientCall where
  fill r :=
    if r.op.noSession then none
    else some
      { successCallback := r.successCallback
        errorCallback := r.errorCallback
        data := r.op.responseType }
  refuse := refuse
  answer := responseCalls json
  lost defaultErrorCallback := reqError none defaultErrorCallback
    { message := "Not found request context.", code := .internalError }

/-- The fallback is `_defaultErrorCallback`. -/
abbrev RestState := State ClientRequest RestContext NHttpResponse ClientCall

abbrev RestAction := Action ClientRequest NHttpResponse

namespace RestState

def step (json : JsonLib) : RestState → RestAction → Option RestState := State.step (restClient json)

/-! ## Delivery -/

/-- The calls into user code for request `q`. -/
def callsFor (s : RestState) (q : Nat) : List ClientCall :=
  (s.handledFor q).flatMap fun h => h.calls.getD []

/-- What became of it is what the request was promised, and no other context was read. -/
def Kept (json : JsonLib) (requests : List ClientRequest) (h : Handled NHttpResponse ClientCall) : Prop :=
  ∃ r, requests[h.request]? = some r ∧
    match h.response with
    | none => ∃ calls, h.calls = some calls ∧ ErrorGiven h.request r.errorCallback h.fallback calls
    | some response => h.read = some h.request ∧
        ((response.statusCode = 200 ∨ GoodBody json response.body) → ∃ calls, h.calls = some calls ∧
          Answered json h.request r.successCallback r.errorCallback r.op.responseType h.fallback
            response calls)

/-- Each request gets one outcome, and it is the right one. -/
structure Delivered (json : JsonLib) (s : RestState) : Prop where
  once : ∀ q, (callsFor s q).length ≤ 1
  kept : ∀ h ∈ s.handled, Kept json s.requests h
  /-- the contexts are those of the requests whose response has not been handled -/
  contexts : s.contexts.map Context.request =
    (List.range s.requests.length).filter fun q =>
      s.hasContext (restClient json) q && decide (q ∉ s.finished)
  /-- a handled response has removed the context, unless its callback is still running -/
  removed : s.aborted = false → s.responded.Perm (s.finished ++ s.running.map Closure.request)

/-- A null session goes to somebody, and the sessions that the server sends can be read. -/
def restOk (json : JsonLib) (s : RestState) : RestAction → Prop
  | .request r _ _ => r.op.noSession = true → r.errorCallback = true ∨ s.fallback = false
  | .respond closure response => ∀ r, s.requests[closure.request]? = some r →
      GoodSession json r.successCallback r.op.responseType response
  | _ => True

/-! ## Proof -/

variable {json : JsonLib} {s : RestState}

theorem fill_eq_none {r : ClientRequest} : (restClient json).fill r = none ↔ r.op.noSession = true := by
  show (if r.op.noSession then none else some _) = none ↔ _
  split
  · next h => exact iff_of_true rfl h
  · next h => exact iff_of_false (by intro h; cases h) h

theorem fill_eq_some {r : ClientRequest} {ctx : RestContext} (h : (restClient json).fill r = some ctx) :
    ctx = ⟨r.successCallback, r.errorCallback, r.op.responseType⟩ := by
  have h : (if r.op.noSession then none else some _) = some ctx := h
  split at h
  · cases h
  · exact (Option.some.inj h).symm

theorem fill_of_session {r : ClientRequest} (h : r.op.noSession = false) :
    (restClient json).fill r = some ⟨r.successCallback, r.errorCallback, r.op.responseType⟩ := by
  show (if r.op.noSession then none else some _) = _
  rw [h]
  rfl

/-- The calls that were made for a response are those that it should give. -/
theorem answered_of_recorded {requests : List ClientRequest} {h : Handled NHttpResponse ClientCall}
    (hr : h.Recorded (restClient json) requests) {response : NHttpResponse}
    (hresponse : h.response = some response) :
    ∃ r, requests[h.request]? = some r ∧ h.read = some h.request ∧
      h.calls = responseCalls json h.fallback h.request
        ⟨r.successCallback, r.errorCallback, r.op.responseType⟩ response ∧
      ∀ calls, h.calls = some calls →
        Answered json h.request r.successCallback r.errorCallback r.op.responseType h.fallback
          response calls := by
  obtain ⟨r, hreq, hr⟩ := hr
  rw [hresponse] at hr
  obtain ⟨ctx, hfill, hread, hcalls⟩ := hr
  obtain rfl := fill_eq_some hfill
  refine ⟨r, hreq, hread, hcalls, fun calls h => ?_⟩
  rw [hcalls] at h
  exact responseCalls_answered h

theorem short_of_recorded {requests : List ClientRequest} {h : Handled NHttpResponse ClientCall}
    (hr : h.Recorded (restClient json) requests) : (h.calls.getD []).length ≤ 1 := by
  cases hresponse : h.response with
  | none =>
    obtain ⟨r, -, hr⟩ := hr
    rw [hresponse] at hr
    rw [hr.2.2]
    exact length_refuse _ r
  | some response =>
    obtain ⟨r, -, -, -, hanswered⟩ := answered_of_recorded hr hresponse
    cases hcalls : h.calls with
    | none => exact Nat.zero_le 1
    | some calls => exact (hanswered calls hcalls).length_le

theorem callsFor_le (hi : State.Inv (restClient json) s) (q : Nat) : (callsFor s q).length ≤ 1 := by
  have honce := hi.handledFor_le q
  have hmem : ∀ h ∈ s.handledFor q, (h.calls.getD []).length ≤ 1 := fun h hh =>
    short_of_recorded (hi.recorded h (List.mem_of_mem_filter hh))
  unfold callsFor
  rcases hl : s.handledFor q with _ | ⟨h, _ | ⟨h', l⟩⟩
  · exact Nat.zero_le 1
  · rw [List.flatMap_singleton]
    exact hmem h (hl ▸ List.mem_cons_self)
  · rw [hl] at honce
    simp at honce

theorem kept_append {requests : List ClientRequest} (r : ClientRequest)
    {h : Handled NHttpResponse ClientCall} (hk : Kept json requests h) : Kept json (requests ++ [r]) h := by
  obtain ⟨r', hr', hk⟩ := hk
  exact ⟨r', State.getElem?_requests requests r hr', hk⟩

/-- A request that is refused under the guard. -/
theorem kept_refused {requests : List ClientRequest} {h : Handled NHttpResponse ClientCall}
    {r : ClientRequest} (hreq : requests[h.request]? = some r) (hresponse : h.response = none)
    (hcalls : h.calls = some (refuse h.request r))
    (hok : r.errorCallback = true ∨ h.fallback = false) : Kept json requests h := by
  refine ⟨r, hreq, ?_⟩
  rw [hresponse]
  exact ⟨_, hcalls, errorGiven_refuse hok⟩

/-- A response that is handled under the guard. -/
theorem kept_outcome (hi : State.Inv (restClient json) s) {c : Closure} (hc : c ∈ s.outstanding)
    {response : NHttpResponse} (hok : restOk json s (.respond c response)) :
    Kept json s.requests (s.outcome (restClient json) c response) := by
  have hrecorded := hi.outcome_recorded (hi.held c hc).1 response
  obtain ⟨r, hr, hread, hcalls, hanswered⟩ := answered_of_recorded hrecorded rfl
  refine ⟨r, hr, hread, fun hgood => ?_⟩
  have hsome := responseCalls_isSome s.fallback c.request
    ⟨r.successCallback, r.errorCallback, r.op.responseType⟩ (hok r hr)
    fun hs => hgood.resolve_left hs
  obtain ⟨calls, h⟩ := hsome
  exact ⟨calls, hcalls.trans h, hanswered calls (hcalls.trans h)⟩

/-- A guarded step keeps the promises. -/
theorem kept_step {s' : RestState} {a : RestAction} (hi : State.Inv (restClient json) s)
    (hok : restOk json s a) (h : step json s a = some s') (hk : ∀ h ∈ s.handled, Kept json s.requests h) :
    ∀ h ∈ s'.handled, Kept json s'.requests h := by
  obtain ⟨ha, ⟨set, rfl, rfl⟩ | ⟨r, addr, kept, rfl, haddr, rfl⟩ | ⟨c, response, rfl, hc, rfl⟩ |
    ⟨d, stack, rfl, hst, rfl⟩⟩ := State.step_cases h
  · exact hk
  · unfold State.request
    cases hfill : (restClient json).fill r with
    | none =>
      intro h hh
      rcases List.mem_append.1 hh with hh | hh
      · exact kept_append r (hk h hh)
      · obtain rfl := List.mem_singleton.1 hh
        exact kept_refused (State.getElem?_last _ r) rfl rfl (hok (fill_eq_none.1 hfill))
    | some ctx => exact fun h hh => kept_append r (hk h hh)
  · obtain ⟨hhandled, hrequests⟩ := State.handled_respond (restClient json) s c response
    rw [hhandled, hrequests]
    intro h hh
    rcases List.mem_append.1 hh with hh | hh
    · exact hk h hh
    · exact List.mem_singleton.1 hh ▸ kept_outcome hi hc hok
  · obtain ⟨hhandled, hrequests⟩ := State.handled_leave { s with stack } d
    rw [hhandled, hrequests]
    exact hk

theorem Reach.kept (h : Reach (step json) (restOk json) {} s) :
    ∀ h ∈ s.handled, Kept json s.requests h := by
  induction h with
  | init =>
    intro h hh
    cases hh
  | step hreach hok hs ih => exact kept_step (State.Reach.inv hreach) hok hs ih

/-- In every run the outcomes are delivered, as long as a null session finds somebody to
tell and the sessions of the server can be read. -/
theorem delivered (h : Reach (step json) (restOk json) {} s) : Delivered json s := by
  have hi : State.Inv (restClient json) s := State.Reach.inv h
  exact ⟨callsFor_le hi, Reach.kept h, hi.contexts, hi.removed⟩

/-- A step that authenticates nobody and needs no session that is not there. -/
def plain (s : RestState) : RestAction → Bool
  | .request r _ _ => !r.op.noSession
  | .respond closure _ => s.requests[closure.request]?.all fun r => r.op.responseType != some .Session
  | _ => true

theorem restOk_of_plain (json : JsonLib) (s : RestState) (a : RestAction) (h : plain s a = true) :
    restOk json s a := by
  cases a with
  | setFallback set => exact trivial
  | request r addr kept =>
    intro hn
    have hnot : (!r.op.noSession) = true := h
    rw [hn] at hnot
    cases hnot
  | respond closure response =>
    intro r hr _ _ _
    have hdata : (s.requests[closure.request]?.all fun r =>
        r.op.responseType != some .Session) = true := h
    rw [hr, Option.all_some, bne_iff_ne] at hdata
    unfold converts
    split
    · next hsession => exact absurd hsession hdata
    · rfl
  | returns => exact trivial

def goneBody : String := "\x7b\"message\":\"gone\",\"code\":5\x7d"

/-- Parsers for the texts of the run below. -/
def accountJson : JsonLib where
  parse body :=
    if body = "{}" then some (.obj [])
    else if body = goneBody then some (.obj [("message", .str "gone"), ("code", .int 5)])
    else none
  toMessage _ body := if body = "{}" then none else some "INVALID_ARGUMENT"
  sessionToken _ := ""
  base64Decode := id

/-- A player is looked up while the callback of another request runs. -/
def accountRun : List RestAction :=
  [.setFallback true, .request ⟨.getAccount ⟨"token", "user"⟩, true, false⟩ 0 true,
   .request ⟨.joinGroup ⟨"token", "user"⟩ "group", false, false⟩ 1 true,
   .respond ⟨1, 1⟩ { statusCode := 404, body := goneBody },
   .respond ⟨0, 0⟩ { statusCode := 200, body := "{}" }, .returns, .returns]

theorem delivered_accountRun : ∃ s, Reach (step accountJson) (restOk accountJson) {} s ∧
    s.responded = [1, 0] ∧ s.contexts = [] ∧ Delivered accountJson s := by
  have h : (exec (step accountJson) (fun s a => plain s a = true) {} accountRun).isSome = true := by rfl
  have hreach := (Reach.get_exec accountRun h).mono (restOk_of_plain accountJson)
  exact ⟨_, hreach, by rfl, by rfl, delivered hreach⟩

/-- The groups of nobody: there is no session, and no callback but the default one. -/
def noSessionRun : List RestAction :=
  [.setFallback true, .request ⟨.listOwnGroups none none none "", true, false⟩ 0 true]

/-- Without a session the default callback hears nothing. -/
theorem not_delivered : ¬ ∀ (json : JsonLib) (s : RestState),
    Reach (step json) anyStep {} s → Delivered json s := by
  intro h
  have hrun : (exec (step accountJson) anyStep {} noSessionRun).isSome = true := by rfl
  obtain ⟨r, hr, calls, hcalls, error, herror⟩ :=
    (h accountJson _ (Reach.get_exec noSessionRun hrun)).kept _ List.mem_cons_self
  obtain rfl := Option.some.inj hr
  rw [← Option.some.inj hcalls] at herror
  cases herror

end RestState

end NakamaCpp.Rest
