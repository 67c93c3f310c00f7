import NakamaCpp.Rest.GrpcRun

/-!
# The buffers of the gRPC client

An operation gives `Finish` a buffer for the response: `_emptyData` of the client, or a message
that it has made with `make_shared`.  Such a message lives as long as a closure that has captured
its `shared_ptr`, and the closures live in the contexts of the client.  The queue may write into
the buffer until it gives the tag of the call back.

    a call in flight  →
      (its buffer is kept ↔ the client is there, and there is a success callback or no message)

                                                                            (buffers_kept)
-/

namespace NakamaCpp.Rest

open Transition Dispatch

/-! ## Closures and buffers -/

/-- What a call reads its response into. -/
inductive Buffer
  /-- the message that the operation of the request has made -/
  | message (request : Nat) (type : ResponseType)
  /-- `_emptyData`, a member of the client -/
  | emptyData
deriving DecidableEq, Repr

/-- The buffer that the operation gives to `Finish`. -/
def ClientRequest.buffer (r : ClientRequest) (q : Nat) : Buffer :=
  match r.op.responseType with
  | some type => .message q type
  | none => .emptyData

/-- A `std::function` in a context, by the messages that it has captured. -/
structure CallbackClosure where
  captured : List Buffer
deriving DecidableEq, Repr

namespace GrpcContext

/-- `ctx->successCallback`, which is set under `if (successCallback)` when there is a message to
capture, and is the callback of the user when there is none. -/
def successClosure (ctx : GrpcContext) (q : Nat) : Option CallbackClosure :=
  if ctx.successCallback then some ⟨(ctx.data.map (Buffer.message q)).toList⟩ else none

/-- `ctx->errorCallback`, the callback of the user. -/
def errorClosure (ctx : GrpcContext) : Option CallbackClosure :=
  if ctx.errorCallback then some ⟨[]⟩ else none

def closures (ctx : GrpcContext) (q : Nat) : List CallbackClosure :=
  (ctx.successClosure q).toList ++ ctx.errorClosure.toList

end GrpcContext

namespace GrpcState

/-- A closure in the context of the request owns the message. -/
def Owned (s : GrpcState) (tag : Closure) (b : Buffer) : Prop :=
  ∃ ctx ∈ s.client.contexts, ctx.addr = tag.addr ∧ ctx.request = tag.request ∧
    ∃ f ∈ ctx.data.closures ctx.request, b ∈ f.captured

/-- The buffer is there: a message while it is owned, `_emptyData` with the client. -/
def Kept (s : GrpcState) (tag : Closure) : Buffer → Prop
  | .message q type => s.Owned tag (.message q type)
  | .emptyData => s.destroyed = false

/-- The buffer of every call in flight is there. -/
def BuffersKept (s : GrpcState) : Prop :=
  ∀ tag ∈ s.client.outstanding, ∀ r, s.client.requests[tag.request]? = some r →
    s.Kept tag (r.buffer tag.request)

/-- A call whose response has a message is made with a success callback, and the client is
destroyed when no call is in flight. -/
def buffersOk (s : GrpcState) : GrpcAction → Prop
  | .request r _ started => r.op.noSession = false → started = true → r.freesResponse = false
  | .destroy => s.client.outstanding = []
  | _ => True

variable {json : JsonLib} {s : GrpcState}

/-! ## One call -/

theorem mem_closures {ctx : GrpcContext} {q : Nat} {b : Buffer} :
    (∃ f ∈ ctx.closures q, b ∈ f.captured) ↔
      ctx.successCallback = true ∧ ∃ type, ctx.data = some type ∧ b = .message q type := by
  unfold GrpcContext.closures GrpcContext.successClosure GrpcContext.errorClosure
  cases hs : ctx.successCallback <;> cases he : ctx.errorCallback <;> cases hd : ctx.data <;> simp

/-- Every tag that the queue has leads to its context, until the client goes. -/
def Held (json : JsonLib) (s : GrpcState) : Prop :=
  s.destroyed = false ∧ State.Inv (grpcClient json) s.client ∨
    s.destroyed = true ∧ s.client.contexts = []

/-- When the buffer of a call in flight is there. -/
theorem Held.kept_iff (hs : Held json s) {tag : Closure} (ht : tag ∈ s.client.outstanding)
    {r : ClientRequest} (hr : s.client.requests[tag.request]? = some r) :
    s.Kept tag (r.buffer tag.request) ↔ s.destroyed = false ∧ r.freesResponse = false := by
  unfold ClientRequest.buffer ClientRequest.freesResponse
  rcases hs with ⟨hd, hi⟩ | ⟨hd, hnone⟩
  · rw [hd]
    cases htype : r.op.responseType with
    | none => exact iff_of_true hd ⟨rfl, rfl⟩
    | some type =>
      obtain ⟨ctx, hctx, haddr, hreq⟩ := (hi.held tag ht).1
      obtain ⟨r', hr', hfill⟩ := hi.filled ctx hctx
      obtain rfl : r = r' := by
        rw [hreq] at hr'
        exact Option.some.inj (hr.symm.trans hr')
      have hdata := fill_eq_some hfill
      rw [Option.isSome_some, Bool.true_and, Bool.not_eq_false', eq_self, true_and]
      constructor
      · rintro ⟨ctx', hctx', -, hreq', hf⟩
        obtain rfl : ctx' = ctx :=
          List.inj_on_of_nodup_map hi.nodup_requests hctx' hctx (hreq'.trans hreq.symm)
        rw [mem_closures, hdata] at hf
        exact hf.1
      · intro hsuccess
        refine ⟨ctx, hctx, haddr, hreq, ?_⟩
        rw [mem_closures, hdata]
        exact ⟨hsuccess, type, htype, by rw [hreq]⟩
  · refine iff_of_false (fun h => ?_) (fun h => ?_)
    · cases htype : r.op.responseType with
      | none =>
        rw [htype] at h
        exact absurd (hd.symm.trans h) (by decide)
      | some type =>
        rw [htype] at h
        obtain ⟨ctx, hctx, -⟩ := h
        rw [hnone] at hctx
        cases hctx
    · exact absurd (hd.symm.trans h.1) (by decide)

/-! ## Steps -/

theorem client_request (json : JsonLib) (s : GrpcState) (r : ClientRequest) (addr : Nat)
    (started : Bool) :
    (s.request json r addr started).client = s.client.request (grpcClient json) r addr started := by
  unfold GrpcState.request
  dsimp only
  split <;> rfl

theorem Held.step {s' : GrpcState} {a : GrpcAction} (hs : Held json s)
    (h : s.step json a = some s') : Held json s' := by
  obtain ⟨ha, ⟨hd, -, -, rfl⟩ | ⟨hd, hcases⟩⟩ := step_cases h
  · rcases hs with ⟨hd', -⟩ | hs
    · rw [hd] at hd'
      cases hd'
    · exact .inr hs
  · rcases hs with ⟨-, hi⟩ | ⟨hd', -⟩
    · obtain ⟨set, -, rfl⟩ | ⟨r, addr, started, -, haddr, rfl⟩ | ⟨-, rfl⟩ |
        ⟨b, client, -, hstep, rfl⟩ | ⟨-, rfl⟩ := hcases
      · exact .inl ⟨hd, { hi with }⟩
      · refine .inl ⟨(destroyed_request json s r addr started).trans hd, ?_⟩
        rw [client_request]
        exact hi.request ha r started haddr
      · exact .inl ⟨hd, hi⟩
      · exact .inl ⟨hd, hi.step hstep⟩
      · exact .inr ⟨rfl, rfl⟩
    · rw [hd] at hd'
      cases hd'

theorem Reach.held {ok : GrpcState → GrpcAction → Prop} (h : Reach (step json) ok {} s) :
    Held json s :=
  h.invariant (.inl ⟨rfl, State.inv_init (grpcClient json)⟩) fun _ _ _ hs _ hstep => hs.step hstep

/-- The client is there while a call is in flight, and every such call keeps its message. -/
structure CallsOk (s : GrpcState) : Prop where
  there : s.destroyed = true → s.client.outstanding = []
  calls : ∀ tag ∈ s.client.outstanding, ∀ r, s.client.requests[tag.request]? = some r →
    r.freesResponse = false

/-- An answer or the end of a callback brings no new call. -/
theorem outstanding_step {client : State ClientRequest GrpcContext GrpcEvent ClientCall}
    (hi : State.Inv (grpcClient json) s.client) {b : Action ClientRequest GrpcEvent}
    (hreq : ∀ r addr kept, b ≠ .request r addr kept)
    (h : s.client.step (grpcClient json) b = some client) :
    client.requests = s.client.requests ∧ ∀ tag ∈ client.outstanding, tag ∈ s.client.outstanding := by
  obtain ⟨-, ⟨set, -, rfl⟩ | ⟨r, addr, kept, rfl, -, -⟩ | ⟨c, event, -, hc, rfl⟩ |
    ⟨d, stack, -, -, rfl⟩⟩ := State.step_cases h
  · exact ⟨rfl, fun _ ht => ht⟩
  · exact absurd rfl (hreq r addr kept)
  · refine ⟨(State.handled_respond (grpcClient json) s.client c event).2, fun tag ht => ?_⟩
    rw [(State.respond_cases hi hc event).1] at ht
    exact List.mem_of_mem_erase ht
  · cases d with
    | none => exact ⟨rfl, fun _ ht => ht⟩
    | some c => exact ⟨rfl, fun _ ht => ht⟩

/-- A request brings one call at most, its own. -/
theorem outstanding_request (json : JsonLib)
    (s : State ClientRequest GrpcContext GrpcEvent ClientCall) (r : ClientRequest) (addr : Nat)
    (started : Bool) :
    (s.request (grpcClient json) r addr started).requests = s.requests ++ [r] ∧
      ∀ tag ∈ (s.request (grpcClient json) r addr started).outstanding, tag ∈ s.outstanding ∨
        tag.request = s.requests.length ∧ started = true ∧ r.op.noSession = false := by
  unfold State.request
  cases hfill : (grpcClient json).fill r with
  | none => exact ⟨rfl, fun _ ht => .inl ht⟩
  | some ctx =>
    refine ⟨rfl, fun tag ht => ?_⟩
    rcases List.mem_append.1 ht with ht | ht
    · exact .inl ht
    · have hsession : ¬ r.op.noSession = true := by
        intro hnone
        rw [(fill_eq_none.2 hnone : (grpcClient json).fill r = none)] at hfill
        cases hfill
      cases started with
      | true =>
        obtain rfl := List.mem_singleton.1 ht
        exact .inr ⟨rfl, rfl, Bool.eq_false_iff.2 hsession⟩
      | false => cases ht

theorem CallsOk.step {s' : GrpcState} {a : GrpcAction} (hc : CallsOk s) (hs : Held json s)
    (hok : buffersOk s a) (h : s.step json a = some s') : CallsOk s' := by
  obtain ⟨ha, ⟨hd, -, -, rfl⟩ | ⟨hd, hcases⟩⟩ := step_cases h
  · exact ⟨hc.there, hc.calls⟩
  · rcases hs with ⟨-, hi⟩ | ⟨hd', -⟩
    · obtain ⟨set, -, rfl⟩ | ⟨r, addr, started, rfl, haddr, rfl⟩ | ⟨-, rfl⟩ |
        ⟨b, client, hb, hstep, rfl⟩ | ⟨rfl, rfl⟩ := hcases
      · exact ⟨hc.there, hc.calls⟩
      · obtain ⟨hrequests, hout⟩ := outstanding_request json s.client r addr started
        refine ⟨fun hd' => ?_, fun tag ht r' hr' => ?_⟩
        · rw [destroyed_request, hd] at hd'
          cases hd'
        · rw [client_request] at ht hr'
          rw [hrequests] at hr'
          rcases hout tag ht with hold | ⟨hq, hstarted, hsession⟩
          · obtain ⟨ctx, hctx, -, hreq⟩ := (hi.held tag hold).1
            obtain ⟨r'', hr'', -⟩ := hi.filled ctx hctx
            rw [hreq] at hr''
            have := State.getElem?_requests s.client.requests r hr''
            obtain rfl := Option.some.inj (this.symm.trans hr')
            exact hc.calls tag hold r'' hr''
          · rw [hq, State.getElem?_last] at hr'
            obtain rfl := Option.some.inj hr'
            exact hok hsession hstarted
      · exact ⟨hc.there, hc.calls⟩
      · have hreq : ∀ r addr kept, b ≠ .request r addr kept := by
          rintro r addr kept rfl
          obtain ⟨-, h⟩ | ⟨tag, event, -, h⟩ := hb
          · cases h
          · cases h
        obtain ⟨hrequests, hout⟩ := outstanding_step hi hreq hstep
        refine ⟨fun hd' => absurd (hd.symm.trans hd') (by decide), fun tag ht r hr => ?_⟩
        exact hc.calls tag (hout tag ht) r (hrequests ▸ hr)
      · exact ⟨fun _ => hok, hc.calls⟩
    · rw [hd] at hd'
      cases hd'

theorem Reach.callsOk (h : Reach (step json) buffersOk {} s) : CallsOk s := by
  have h0 : CallsOk {} := by
    refine ⟨fun _ => rfl, fun tag ht => ?_⟩
    cases ht
  have hboth : Held json s ∧ CallsOk s :=
    h.invariant (P := fun s => Held json s ∧ CallsOk s)
      ⟨.inl ⟨rfl, State.inv_init (grpcClient json)⟩, h0⟩
      fun _ _ _ hs hok hstep => ⟨hs.1.step hstep, hs.2.step hs.1 hok hstep⟩
  exact hboth.2

/-! ## Proof -/

/-- **Buffers.**  In every run whose calls keep their messages, and at whose end no call is in
flight, every buffer is there until its call is over; and in every run at all, the buffer of a
call in flight is there exactly when that is so of this call. -/
theorem buffers_kept (json : JsonLib) (s : GrpcState) :
    (Reach (step json) buffersOk {} s → s.BuffersKept) ∧
    (Reach (step json) anyStep {} s → ∀ tag ∈ s.client.outstanding, ∀ r,
      s.client.requests[tag.request]? = some r →
        (s.Kept tag (r.buffer tag.request) ↔
          s.destroyed = false ∧ (r.successCallback = true ∨ r.op.responseType = none))) := by
  have hfrees : ∀ r : ClientRequest, r.freesResponse = false ↔
      r.successCallback = true ∨ r.op.responseType = none := by
    intro r
    unfold ClientRequest.freesResponse
    cases r.successCallback <;> cases r.op.responseType <;> simp
  refine ⟨fun h tag ht r hr => ?_, fun h tag ht r hr => ?_⟩
  · have hc := Reach.callsOk h
    refine ((Reach.held h).kept_iff ht hr).2 ⟨?_, hc.calls tag ht r hr⟩
    by_contra hd
    rw [hc.there (Bool.eq_true_of_not_eq_false hd)] at ht
    cases ht
  · rw [(Reach.held h).kept_iff ht hr, hfrees]

instance (s : GrpcState) : ∀ a : GrpcAction, Decidable (buffersOk s a)
  | .request r _ started => inferInstanceAs (Decidable (r.op.noSession = false → started = true →
      r.freesResponse = false))
  | .destroy => inferInstanceAs (Decidable (s.client.outstanding = []))
  | .setErrorCallback _ | .disconnect | .event .. | .callbackReturns => inferInstanceAs (Decidable True)

/-- A call with a message, and one without that has no success callback. -/
def heldRun : List GrpcAction :=
  [.request ⟨.getAccount ⟨"token", "user"⟩, true, false⟩ 0 true,
   .request ⟨.joinGroup ⟨"token", "user"⟩ "group", false, true⟩ 1 true]

theorem buffers_kept_heldRun : ∃ s, Reach (step RestState.accountJson) buffersOk {} s ∧
    s.client.outstanding = [⟨0, 0⟩, ⟨1, 1⟩] ∧ s.BuffersKept ∧
      s.Kept ⟨0, 0⟩ (.message 0 .Account) := by
  have h : (exec (step RestState.accountJson) buffersOk {} heldRun).isSome = true := by rfl
  have hreach := Reach.get_exec heldRun h
  have hany : Reach (step RestState.accountJson) anyStep {} _ :=
    hreach.mono fun _ _ _ => trivial
  refine ⟨_, hreach, by rfl, (buffers_kept _ _).1 hreach, ?_⟩
  exact ((buffers_kept _ _).2 hany ⟨0, 0⟩ List.mem_cons_self _ rfl).2 ⟨by rfl, .inl rfl⟩

/-- The same call without its success callback. -/
def unheardRun : List GrpcAction :=
  [.request ⟨.getAccount ⟨"token", "user"⟩, false, true⟩ 0 true]

/-- Without a success callback the message goes when the operation returns, and `~GrpcClient`
deletes the closures of the calls in flight. -/
theorem not_buffers_kept :
    (∃ s, Reach (step RestState.accountJson) anyStep {} s ∧ s.destroyed = false ∧
      s.client.outstanding = [⟨0, 0⟩] ∧ ¬ s.BuffersKept) ∧
    ∃ s, Reach (step RestState.accountJson) anyStep {} s ∧ s.destroyed = true ∧
      s.client.outstanding = [⟨0, 0⟩] ∧ ¬ s.BuffersKept := by
  have hunheard : (exec (step RestState.accountJson) anyStep {} unheardRun).isSome = true := by rfl
  have habandoned : (exec (step RestState.accountJson) anyStep {} abandonedRun).isSome = true := by
    rfl
  refine ⟨⟨_, Reach.get_exec unheardRun hunheard, by rfl, by rfl, fun hkept => ?_⟩,
    ⟨_, Reach.get_exec abandonedRun habandoned, by rfl, by rfl, fun hkept => ?_⟩⟩
  · have hs := Reach.held (Reach.get_exec unheardRun hunheard)
    cases ((hs.kept_iff List.mem_cons_self rfl).1 (hkept _ List.mem_cons_self _ rfl)).2
  · have hs := Reach.held (Reach.get_exec abandonedRun habandoned)
    cases ((hs.kept_iff List.mem_cons_self rfl).1 (hkept _ List.mem_cons_self _ rfl)).1

end GrpcState

end NakamaCpp.Rest
