import NakamaCpp.Http.HttpClient

/-!
# Runs of the HTTP client

Every created request is in one place: pending, finished, or consumed.  From the
order in which requests move follows the order of the callbacks.

    Reach step quietCancel {} s  →  Conserved s
-/

namespace NakamaCpp.Http

open Transition

def Frame.isCancel : Frame → Bool
  | .cancelLoop => true
  | .cancelCall => true
  | _ => false

/-! ## What is recorded of a run -/

/-- The contexts that met the given fate, in order. -/
def fated (consumed : List (ReqContext × Fate)) (fate : Fate) : List ReqContext :=
  (consumed.filter fun p => p.2 == fate).map Prod.fst

/-- The requests whose callback was invoked that way, in order. -/
def invokedBy (invoked : List Invocation) (via : Fate) : List Nat :=
  (invoked.filter fun i => i.via == via).map Invocation.request

/-- The requests among the given contexts that have a callback. -/
def called (l : List ReqContext) : List Nat := (l.filter ReqContext.callback).map ReqContext.request

/-- The context whose callback `cancelAllRequests` is in; it is still pending. -/
def cancelling (stack : List Frame) (pending : List ReqContext) : List ReqContext :=
  match stack with
  | .cancelCall :: _ => pending.head?.toList
  | _ => []

theorem fated_append (consumed : List (ReqContext × Fate)) (ctx : ReqContext) (fate fate' : Fate) :
    fated (consumed ++ [(ctx, fate)]) fate' = fated consumed fate' ++ if fate = fate' then [ctx] else [] := by
  unfold fated
  rw [List.filter_append, List.map_append]
  congr 1
  by_cases h : fate = fate' <;> simp [h]

theorem invokedBy_append (invoked : List Invocation) (i : Invocation) (via : Fate) :
    invokedBy (invoked ++ [i]) via = invokedBy invoked via ++ if i.via = via then [i.request] else [] := by
  unfold invokedBy
  rw [List.filter_append, List.map_append]
  congr 1
  by_cases h : i.via = via <;> simp [h]

theorem called_append (l l' : List ReqContext) : called (l ++ l') = called l ++ called l' := by
  simp [called]

theorem called_singleton (ctx : ReqContext) :
    called [ctx] = if ctx.callback then [ctx.request] else [] := by
  cases h : ctx.callback <;> simp [called, h]

theorem cancelling_nil {stack : List Frame} (h : ∀ f ∈ stack, f.isCancel = false)
    (pending : List ReqContext) : cancelling stack pending = [] := by
  unfold cancelling
  split
  · exact absurd (h .cancelCall List.mem_cons_self) (by decide)
  · rfl

namespace HttpState

/-- The contexts in all three places. -/
def contexts (s : HttpState) : List ReqContext :=
  s.c.pendingRequests ++ s.c.finishedRequests ++ s.consumed.map Prod.fst

/-- What holds in every state, whatever callbacks do. -/
structure Inv (s : HttpState) : Prop where
  onePlace : (s.contexts.map ReqContext.request).Perm (List.range s.requests.length)
  created : ∀ ctx ∈ s.contexts, s.requests[ctx.request]? = some ⟨ctx.id, ctx.callback⟩
  ids : ∀ q r, s.requests[q]? = some r → r.id = UInt64.ofNat (q + 1)
  nextId : s.c.nextReqId = UInt64.ofNat (s.requests.length + 1)
  finishOrder : s.completed =
    (fated s.consumed .ticked ++ s.c.finishedRequests).map ReqContext.request
  tickOrder : invokedBy s.invoked .ticked = called (fated s.consumed .ticked)
  cancelOrder : invokedBy s.invoked .cancelled =
    called (fated s.consumed .cancelled ++ cancelling s.stack s.c.pendingRequests)
  viaFate : ∀ i ∈ s.invoked, i.via = .ticked ∨ i.via = .cancelled
  unlocked : s.locked = false → ∀ f ∈ s.stack, f.isCancel = false
  locked : s.locked = true → ∃ f stack, s.stack = f :: stack ∧ f.isCancel = true ∧
    ∀ f ∈ stack, f.isCancel = false
  atCall : ∀ stack, s.stack = .cancelCall :: stack →
    ∃ ctx pending, s.c.pendingRequests = ctx :: pending ∧ ctx.callback = true

theorem inv_init : Inv {} := by
  refine ⟨by rfl, by simp [contexts], by simp, rfl, rfl, rfl, rfl, by simp, by simp, by rintro ⟨⟩,
    by rintro st ⟨⟩⟩

theorem Inv.not_cancelCall {s : HttpState} (hi : Inv s) (hl : s.locked = false) (stack : List Frame) :
    s.stack ≠ .cancelCall :: stack := by
  intro hs
  exact absurd (hi.unlocked hl .cancelCall (hs ▸ List.mem_cons_self)) (by decide)

/-- While the mutex is free the cancelled requests are the consumed ones. -/
theorem Inv.cancelOrder_unlocked {s : HttpState} (hi : Inv s) (hl : s.locked = false) :
    invokedBy s.invoked .cancelled = called (fated s.consumed .cancelled) := by
  have := hi.cancelOrder
  rwa [cancelling_nil (hi.unlocked hl), List.append_nil] at this

/-! ## Moving a request -/

/-- The context that is found is the one that is removed. -/
theorem findPending_some {c : NHttpClientCppRest} {id : UInt64} {ctx : ReqContext}
    (h : c.findPending id = some ctx) :
    ∃ l₁ l₂, c.pendingRequests = l₁ ++ ctx :: l₂ ∧
      c.removePendingReq id = { c with pendingRequests := l₁ ++ l₂ } ∧ ctx.id = id := by
  obtain ⟨hid, l₁, l₂, hl, hno⟩ := List.find?_eq_some_iff_append.1 h
  refine ⟨l₁, l₂, hl, ?_, by simpa using hid⟩
  have hctx : (ctx :: l₂).eraseP (fun ctx => ctx.id == id) = l₂ := List.eraseP_cons_of_pos hid
  simp only [NHttpClientCppRest.removePendingReq, hl]
  rw [List.eraseP_append_right _ (by simpa using hno), hctx]

theorem removePendingReq_none {c : NHttpClientCppRest} {id : UInt64} (h : c.findPending id = none) :
    c.removePendingReq id = c := by
  have := List.find?_eq_none.1 h
  simp only [NHttpClientCppRest.removePendingReq, List.eraseP_of_forall_not this]

/-- A request leaves the pending ones for another list. -/
theorem perm_leave (l₁ l₂ m n : List ReqContext) (ctx : ReqContext) :
    (l₁ ++ l₂ ++ (m ++ ctx :: n)).Perm (l₁ ++ ctx :: l₂ ++ (m ++ n)) := by
  refine List.perm_iff_count.2 fun a => ?_
  simp only [List.count_append, List.count_cons]
  omega

/-- `finishReq` under the free mutex. -/
theorem Inv.finish {s : HttpState} (hi : Inv s) (hl : s.locked = false) (id : UInt64)
    (response : NHttpResponse) : Inv (s.finish id response) := by
  unfold HttpState.finish NHttpClientCppRest.finishReq
  cases hf : s.c.findPending id with
  | none =>
    simp only [Option.map_none, Option.toList_none, List.append_nil]
    exact hi
  | some ctx =>
    obtain ⟨l₁, l₂, hp, hr, -⟩ := findPending_some hf
    simp only [hr, Option.map_some, Option.toList_some]
    refine ⟨?_, ?_, hi.ids, hi.nextId, ?_, hi.tickOrder, ?_, hi.viaFate, hi.unlocked, hi.locked,
      fun stack hs => absurd hs (hi.not_cancelCall hl stack)⟩
    · refine List.Perm.trans ?_ hi.onePlace
      have hmove := perm_leave l₁ l₂ s.c.finishedRequests (s.consumed.map Prod.fst) ctx
      simpa [contexts, hp] using hmove.map ReqContext.request
    · intro ctx' hctx'
      have hold : ∀ x, (x = ctx ∨ x ∈ l₁ ∨ x ∈ l₂) ∨ x ∈ s.c.finishedRequests ∨
          x ∈ s.consumed.map Prod.fst → s.requests[x.request]? = some ⟨x.id, x.callback⟩ := by
        intro x hx
        refine hi.created x ?_
        simp only [contexts, hp, List.mem_append, List.mem_cons]
        tauto
      simp only [contexts, List.mem_append, List.mem_singleton] at hctx'
      rcases hctx' with (h | h | rfl) | h
      · exact hold ctx' (.inl (.inr h))
      · exact hold ctx' (.inr (.inl h))
      · exact hold ctx (.inl (.inl rfl))
      · exact hold ctx' (.inr (.inr h))
    · simp only [hi.finishOrder, List.map_append, List.map_cons, List.map_nil, List.append_assoc]
    · rw [cancelling_nil (hi.unlocked hl), List.append_nil]
      exact hi.cancelOrder_unlocked hl

/-- `createReqContext` on the user thread. -/
theorem Inv.create {s : HttpState} (hi : Inv s) (hl : s.locked = false) (callback : Bool) :
    Inv { s with
      c := s.c.createReqContext s.requests.length callback
      requests := s.requests ++ [{ id := s.c.nextReqId, callback }] } := by
  have hlt : ∀ ctx ∈ s.contexts, ctx.request < s.requests.length := fun ctx hctx =>
    (List.getElem?_eq_some_iff.1 (hi.created ctx hctx)).1
  refine ⟨?_, ?_, ?_, ?_, hi.finishOrder, hi.tickOrder, ?_, hi.viaFate, hi.unlocked, hi.locked,
    fun stack hs => absurd hs (hi.not_cancelCall hl stack)⟩
  · have hold := List.perm_iff_count.1 hi.onePlace
    simp only [List.length_append, List.length_singleton, List.range_succ]
    refine List.perm_iff_count.2 fun a => ?_
    have := hold a
    simp only [contexts, NHttpClientCppRest.createReqContext, List.map_append, List.map_cons,
      List.map_nil, List.count_append, List.count_cons, List.count_nil] at this ⊢
    omega
  · intro ctx hctx
    simp only [contexts, NHttpClientCppRest.createReqContext, List.mem_append,
      List.mem_singleton] at hctx
    have hcase : ctx ∈ s.contexts ∨
        ctx = { id := s.c.nextReqId, request := s.requests.length, callback } := by
      simp only [contexts, List.mem_append]
      tauto
    rcases hcase with h | rfl
    · simp only
      rw [List.getElem?_append_left (hlt ctx h)]
      exact hi.created ctx h
    · simp
  · intro q r hr
    simp only at hr
    rcases Nat.lt_or_ge q s.requests.length with h | h
    · rw [List.getElem?_append_left h] at hr
      exact hi.ids q r hr
    · rw [List.getElem?_append_right h] at hr
      have hq : q = s.requests.length := by
        have := (List.getElem?_eq_some_iff.1 hr).1
        simp only [List.length_singleton] at this
        omega
      subst hq
      simp only [Nat.sub_self, List.getElem?_cons_zero, Option.some.injEq] at hr
      rw [← hr]
      exact hi.nextId
  · simp only [NHttpClientCppRest.createReqContext, hi.nextId, List.length_append,
      List.length_singleton, UInt64.ofNat_add]
    rfl
  · rw [cancelling_nil (hi.unlocked hl), List.append_nil]
    exact hi.cancelOrder_unlocked hl

/-- `request` creates a context, and finishes it at once when there is no base uri. -/
theorem request_cases (s : HttpState) (callback clientBuilt requestBuilt : Bool) :
    (∃ client inFlight, s.request callback clientBuilt requestBuilt =
      { s with
        c := { s.c.createReqContext s.requests.length callback with client }
        requests := s.requests ++ [{ id := s.c.nextReqId, callback }]
        inFlight }) ∨
    ∃ response, s.request callback clientBuilt requestBuilt =
      HttpState.finish { s with
        c := s.c.createReqContext s.requests.length callback
        requests := s.requests ++ [{ id := s.c.nextReqId, callback }] } s.c.nextReqId response := by
  unfold HttpState.request NHttpClientCppRest.request
  simp only
  split
  · refine .inr ⟨{ statusCode := InternalStatusCodes.notInitializedError
                   errorMessage := "[NHttpClientCppRest::request] base uri is not set" }, ?_⟩
    simp [HttpState.finish, NHttpClientCppRest.finishReqWithError]
  · split
    · cases requestBuilt
      · exact .inl ⟨true, s.inFlight, by simp⟩
      · exact .inl ⟨true, s.inFlight ++ [s.requests.length], by simp⟩
    · next h =>
      simp only [Bool.or_eq_true, not_or, Bool.not_eq_true] at h
      exact .inl ⟨false, s.inFlight, by simp [← h.1]⟩

theorem Inv.request {s : HttpState} (hi : Inv s) (hl : s.locked = false)
    (callback clientBuilt requestBuilt : Bool) : Inv (s.request callback clientBuilt requestBuilt) := by
  have hc := hi.create hl callback
  obtain ⟨client, inFlight, h⟩ | ⟨response, h⟩ := request_cases s callback clientBuilt requestBuilt
  · rw [h]
    exact { hc with }
  · rw [h]
    exact hc.finish hl _ response

/-- The answer to a request that has no callback. -/
theorem Inv.answered {s : HttpState} (hi : Inv s) (hl : s.locked = false) (id : UInt64) :
    Inv { s with
      c := s.c.removePendingReq id
      consumed := s.consumed ++ ((s.c.findPending id).map fun ctx => (ctx, Fate.answered)).toList } := by
  cases hf : s.c.findPending id with
  | none =>
    simp only [Option.map_none, Option.toList_none, List.append_nil, removePendingReq_none hf]
    exact { hi with }
  | some ctx =>
    obtain ⟨l₁, l₂, hp, hr, -⟩ := findPending_some hf
    simp only [hr, Option.map_some, Option.toList_some]
    refine ⟨?_, ?_, hi.ids, hi.nextId, ?_, ?_, ?_, hi.viaFate, hi.unlocked, hi.locked,
      fun stack hs => absurd hs (hi.not_cancelCall hl stack)⟩
    · refine List.Perm.trans ?_ hi.onePlace
      have hmove := perm_leave l₁ l₂ (s.c.finishedRequests ++ s.consumed.map Prod.fst) [] ctx
      simpa [contexts, hp] using hmove.map ReqContext.request
    · intro ctx' hctx'
      refine hi.created ctx' ?_
      simp only [contexts, hp, List.map_append, List.map_cons, List.map_nil, List.mem_append,
        List.mem_cons, List.not_mem_nil, or_false] at hctx' ⊢
      tauto
    · simp only [fated_append, hi.finishOrder]
      simp
    · simpa [fated_append] using hi.tickOrder
    · rw [cancelling_nil (hi.unlocked hl), List.append_nil, hi.cancelOrder_unlocked hl]
      simp [fated_append]

/-- A round of the loop in `tick`. -/
theorem Inv.pop {s : HttpState} (hi : Inv s) (hl : s.locked = false) {stack : List Frame}
    (hst : s.stack = .tickLoop :: stack) : Inv (s.pop stack) := by
  have hfree : ∀ f ∈ stack, f.isCancel = false := fun f hf =>
    hi.unlocked hl f (hst ▸ List.mem_cons_of_mem _ hf)
  have hcan := hi.cancelOrder_unlocked hl
  unfold HttpState.pop
  cases hfin : s.c.finishedRequests with
  | nil =>
    simp only
    refine ⟨hi.onePlace, hi.created, hi.ids, hi.nextId, hi.finishOrder, hi.tickOrder, ?_, hi.viaFate,
      fun _ => hfree, fun h => by simp [hl] at h, ?_⟩
    · rw [cancelling_nil hfree, List.append_nil]
      exact hcan
    · rintro st rfl
      exact absurd (hfree .cancelCall List.mem_cons_self) (by decide)
  | cons ctx finished =>
    have hplace : (contexts { s with
        c := { s.c with finishedRequests := finished }
        consumed := s.consumed ++ [(ctx, .ticked)] }).Perm s.contexts := by
      simp only [contexts, hfin]
      refine List.perm_iff_count.2 fun a => ?_
      simp only [List.map_append, List.map_cons, List.map_nil, List.count_append, List.count_cons,
        List.count_nil]
      omega
    have hone := (hplace.map ReqContext.request).trans hi.onePlace
    have hcreated : ∀ x ∈ contexts { s with
        c := { s.c with finishedRequests := finished }
        consumed := s.consumed ++ [(ctx, .ticked)] }, s.requests[x.request]? = some ⟨x.id, x.callback⟩ :=
      fun x hx => hi.created x (hplace.mem_iff.1 hx)
    have hfinish : s.completed =
        (fated (s.consumed ++ [(ctx, .ticked)]) .ticked ++ finished).map ReqContext.request := by
      rw [hi.finishOrder, hfin, fated_append]
      simp
    have hcancelled : fated (s.consumed ++ [(ctx, .ticked)]) .cancelled = fated s.consumed .cancelled := by
      simp [fated_append]
    simp only
    cases hcb : ctx.callback with
    | true =>
      simp only [if_true]
      refine ⟨hone, hcreated, hi.ids, hi.nextId, hfinish, ?_, ?_, ?_, ?_, fun h => by simp [hl] at h,
        by rintro st ⟨⟩⟩
      · simp only [invokedBy_append, fated_append, called_append, if_true, called_singleton, hcb,
          hi.tickOrder]
      · rw [hcancelled]
        simpa [invokedBy_append, cancelling] using hcan
      · intro i hi'
        rcases List.mem_append.1 hi' with h | h
        · exact hi.viaFate i h
        · exact .inl (List.mem_singleton.1 h ▸ rfl)
      · intro _ f hf
        rcases List.mem_cons.1 hf with rfl | hf
        · rfl
        · exact hfree f hf
    | false =>
      simp only [Bool.false_eq_true, if_false]
      refine ⟨hone, hcreated, hi.ids, hi.nextId, hfinish, ?_, ?_, hi.viaFate, hi.unlocked, hi.locked,
        hi.atCall⟩
      · simp only [fated_append, called_append, if_true, called_singleton, hcb, Bool.false_eq_true,
          if_false, List.append_nil, hi.tickOrder]
      · rw [hcancelled, cancelling_nil (hi.unlocked hl), List.append_nil]
        exact hcan

/-- The front of the pending requests goes, after its callback or without one. -/
theorem Inv.dropPending {s : HttpState} (hi : Inv s) {ctx : ReqContext} {pending : List ReqContext}
    (hp : s.c.pendingRequests = ctx :: pending) {stack : List Frame}
    (hlocked : s.locked = true) (hfree : ∀ f ∈ stack, f.isCancel = false)
    (hcall : invokedBy s.invoked .cancelled = called (fated s.consumed .cancelled ++ [ctx])) :
    Inv { s.dropPending with stack := .cancelLoop :: stack } := by
  have hplace : (contexts { s with
      c := { s.c with pendingRequests := pending }
      consumed := s.consumed ++ [(ctx, .cancelled)] }).Perm s.contexts := by
    have hmove := perm_leave [] pending (s.c.finishedRequests ++ s.consumed.map Prod.fst) [] ctx
    simpa [contexts, hp] using hmove
  have hcreated : ∀ x ∈ contexts { s with
      c := { s.c with pendingRequests := pending }
      consumed := s.consumed ++ [(ctx, .cancelled)] },
      s.requests[x.request]? = some ⟨x.id, x.callback⟩ :=
    fun x hx => hi.created x (hplace.mem_iff.1 hx)
  simp only [HttpState.dropPending, hp]
  refine ⟨(hplace.map ReqContext.request).trans hi.onePlace, hcreated, hi.ids, hi.nextId, ?_, ?_, ?_,
    hi.viaFate, fun h => by simp [hlocked] at h, fun _ => ⟨_, _, rfl, rfl, hfree⟩, by rintro st ⟨⟩⟩
  · rw [hi.finishOrder]
    simp [fated_append]
  · rw [hi.tickOrder]
    simp [fated_append]
  · simpa [fated_append, cancelling] using hcall

/-- A round of the loop in `cancelAllRequests`. -/
theorem Inv.cancelNext {s : HttpState} (hi : Inv s) {stack : List Frame}
    (hst : s.stack = .cancelLoop :: stack) : Inv (s.cancelNext stack) := by
  have hlocked : s.locked = true := by
    cases hl : s.locked with
    | true => rfl
    | false => exact absurd (hi.unlocked hl .cancelLoop (hst ▸ List.mem_cons_self)) (by decide)
  obtain ⟨f, st, hs, -, hfree⟩ := hi.locked hlocked
  obtain ⟨rfl, rfl⟩ := List.cons.inj (hst.symm.trans hs)
  have hcan : invokedBy s.invoked .cancelled = called (fated s.consumed .cancelled) := by
    have := hi.cancelOrder
    rwa [hst, cancelling, List.append_nil] at this
    rintro st ⟨⟩
  unfold HttpState.cancelNext
  cases hp : s.c.pendingRequests with
  | nil =>
    simp only
    refine ⟨hi.onePlace, hi.created, hi.ids, hi.nextId, hi.finishOrder, hi.tickOrder, ?_, hi.viaFate,
      fun _ => hfree, by rintro ⟨⟩, ?_⟩
    · rw [cancelling_nil hfree, List.append_nil]
      exact hcan
    · rintro st rfl
      exact absurd (hfree .cancelCall List.mem_cons_self) (by decide)
  | cons ctx pending =>
    simp only
    cases hcb : ctx.callback with
    | true =>
      simp only [if_true]
      refine ⟨hi.onePlace, hi.created, hi.ids, hi.nextId, hi.finishOrder, ?_, ?_, ?_,
        fun h => by simp [hlocked] at h, fun _ => ⟨_, _, rfl, rfl, hfree⟩,
        fun _ _ => ⟨ctx, pending, hp, hcb⟩⟩
      · rw [invokedBy_append]
        simpa using hi.tickOrder
      · simp only [invokedBy_append, if_true, hcan, called_append, cancelling, hp, List.head?_cons,
          Option.toList_some, called_singleton, hcb]
      · intro i hi'
        rcases List.mem_append.1 hi' with h | h
        · exact hi.viaFate i h
        · exact .inr (List.mem_singleton.1 h ▸ rfl)
    | false =>
      simp only [Bool.false_eq_true, if_false]
      have := hi.dropPending hp hlocked hfree
        (by simp [called_append, called_singleton, hcb, hcan])
      simp only [HttpState.dropPending, hp, hst] at this ⊢
      exact this

theorem Inv.continuation {s : HttpState} (hi : Inv s) (hl : s.locked = false) (id : UInt64)
    (callback : Bool) (completion : Completion) : Inv (s.continuation id callback completion) := by
  unfold HttpState.continuation
  split
  · split
    · split
      · exact hi.finish hl id _
      · exact hi.finish hl id _
    · exact hi.answered hl id
  · exact hi.finish hl id _

/-- The loop of a `tick`, over calls that hold no lock. -/
theorem Inv.tickLoop {s : HttpState} (hi : Inv s) (hl : s.locked = false) {stack : List Frame}
    (hfree : ∀ f ∈ stack, f.isCancel = false) : Inv { s with stack := .tickLoop :: stack } := by
  have hfree' : ∀ f ∈ Frame.tickLoop :: stack, f.isCancel = false := by
    intro f hf
    rcases List.mem_cons.1 hf with rfl | hf
    · rfl
    · exact hfree f hf
  refine ⟨hi.onePlace, hi.created, hi.ids, hi.nextId, hi.finishOrder, hi.tickOrder, ?_, hi.viaFate,
    fun _ => hfree', fun h => by simp [hl] at h, by rintro st ⟨⟩⟩
  rw [cancelling_nil hfree', List.append_nil]
  exact hi.cancelOrder_unlocked hl

theorem Inv.step {s s' : HttpState} {a : HttpAction} (hi : Inv s) (h : s.step a = some s') : Inv s' := by
  cases steps_of_step h with
  | setBaseUri => exact { hi with }
  | request callback clientBuilt requestBuilt hu hl =>
    exact hi.request hl callback clientBuilt requestBuilt
  | requestLocked => exact { hi with }
  | tick hu hl => exact hi.tickLoop hl (hi.unlocked hl)
  | tickLocked => exact { hi with }
  | cancelAllRequests hu hl =>
    refine ⟨hi.onePlace, hi.created, hi.ids, hi.nextId, hi.finishOrder, hi.tickOrder, ?_, hi.viaFate,
      by rintro ⟨⟩, fun _ => ⟨_, _, rfl, rfl, hi.unlocked hl⟩, by rintro st ⟨⟩⟩
    simpa [cancelling] using hi.cancelOrder_unlocked hl
  | cancelLocked => exact { hi with }
  | pop stack hst hl => exact hi.pop hl hst
  | cancelNext stack hst => exact hi.cancelNext hst
  | tickReturns stack hst =>
    -- a callback run by `tick` runs with the mutex free
    have hl : s.locked = false := by
      cases hl : s.locked with
      | false => rfl
      | true =>
        obtain ⟨f, st, hs, hf, -⟩ := hi.locked hl
        obtain ⟨rfl, -⟩ := List.cons.inj (hst.symm.trans hs)
        cases hf
    have hfree := hi.unlocked hl
    rw [hst] at hfree
    exact hi.tickLoop hl fun f hf => hfree f (List.mem_cons_of_mem _ hf)
  | cancelReturns stack hst =>
    have hlocked : s.locked = true := by
      cases hl : s.locked with
      | true => rfl
      | false => exact absurd hst (hi.not_cancelCall hl stack)
    obtain ⟨f, st, hs, -, hfree⟩ := hi.locked hlocked
    obtain ⟨rfl, rfl⟩ := List.cons.inj (hst.symm.trans hs)
    obtain ⟨ctx, pending, hp, -⟩ := hi.atCall stack hst
    refine hi.dropPending hp hlocked hfree ?_
    have := hi.cancelOrder
    rwa [hst, cancelling, hp] at this
  | complete q completion r hq hl =>
    have hi' : Inv { s with inFlight := s.inFlight.erase q } := { hi with }
    exact hi'.continuation hl _ _ completion

theorem Reach.inv {ok : HttpState → HttpAction → Prop} {s : HttpState} (h : Reach step ok {} s) : Inv s :=
  h.invariant inv_init fun _ _ _ hi _ hs => hi.step hs

theorem Inv.nodup {s : HttpState} (hi : Inv s) : (s.contexts.map ReqContext.request).Nodup :=
  hi.onePlace.nodup_iff.2 List.nodup_range

/-! ## Callbacks -/

theorem count_fated (consumed : List (ReqContext × Fate)) (q : Nat) :
    ((fated consumed .ticked).map ReqContext.request).count q +
      ((fated consumed .cancelled).map ReqContext.request).count q ≤
    ((consumed.map Prod.fst).map ReqContext.request).count q := by
  induction consumed with
  | nil => simp [fated]
  | cons p consumed ih =>
    obtain ⟨ctx, fate⟩ := p
    unfold fated at ih ⊢
    cases fate <;> simp [List.count_cons] at ih ⊢ <;> omega

theorem count_called_le (l : List ReqContext) (q : Nat) :
    (called l).count q ≤ (l.map ReqContext.request).count q :=
  ((List.filter_sublist (l := l)).map ReqContext.request).count_le q

/-- Invocations are made by `tick` or by `cancelAllRequests`. -/
theorem Inv.invoked_perm {s : HttpState} (hi : Inv s) :
    (s.invoked.map Invocation.request).Perm (invokedBy s.invoked .ticked ++ invokedBy s.invoked .cancelled) := by
  have hother : s.invoked.filter (fun i => !(i.via == .ticked)) =
      s.invoked.filter fun i => i.via == .cancelled := by
    refine List.filter_congr fun i hmem => ?_
    rcases hi.viaFate i hmem with h | h <;> rw [h] <;> rfl
  have := (List.filter_append_perm (fun i : Invocation => i.via == .ticked) s.invoked).symm
  rw [hother] at this
  simpa [invokedBy] using this.map Invocation.request

/-- No callback is invoked twice. -/
theorem Inv.invoked_nodup {s : HttpState} (hi : Inv s) : (s.invoked.map Invocation.request).Nodup := by
  rw [hi.invoked_perm.nodup_iff, List.nodup_iff_count_le_one]
  intro q
  have hone := List.nodup_iff_count_le_one.1 hi.nodup q
  have hfated := count_fated s.consumed q
  have hticked := count_called_le (fated s.consumed .ticked) q
  have hcancelled := count_called_le
    (fated s.consumed .cancelled ++ cancelling s.stack s.c.pendingRequests) q
  have hcancelling : ((cancelling s.stack s.c.pendingRequests).map ReqContext.request).count q ≤
      (s.c.pendingRequests.map ReqContext.request).count q := by
    unfold cancelling
    split
    · cases s.c.pendingRequests with
      | nil => simp
      | cons ctx pending => simp [List.count_cons]
    · simp
  rw [List.count_append, hi.tickOrder, hi.cancelOrder]
  simp only [contexts, List.map_append, List.count_append] at hone hcancelled
  omega

/-- A request that left by `tick` or by cancellation has been told, if it has a callback. -/
theorem Inv.invoked_of_fated {s : HttpState} (hi : Inv s) {ctx : ReqContext} {fate : Fate}
    (hctx : (ctx, fate) ∈ s.consumed) (hfate : fate ≠ .answered) (hcb : ctx.callback = true) :
    ctx.request ∈ s.invoked.map Invocation.request := by
  have hmem : ∀ f, fate = f → ctx.request ∈ called (fated s.consumed f) := by
    rintro f rfl
    exact List.mem_map.2 ⟨ctx, List.mem_filter.2
      ⟨List.mem_map.2 ⟨(ctx, fate), List.mem_filter.2 ⟨hctx, by simp⟩, rfl⟩, hcb⟩, rfl⟩
  rw [hi.invoked_perm.mem_iff, List.mem_append, hi.tickOrder, hi.cancelOrder, called_append,
    List.mem_append]
  cases fate with
  | ticked => exact .inl (hmem .ticked rfl)
  | cancelled => exact .inr (.inl (hmem .cancelled rfl))
  | answered => exact absurd rfl hfate

/-! ## Cancellation from the point of view of the callbacks -/

/-- A call that a callback makes to the transport. -/
inductive Call
  | request (callback clientBuilt requestBuilt : Bool)
  | tick
  | cancelAllRequests

def Call.action : Call → HttpAction
  | .request callback clientBuilt requestBuilt => .request callback clientBuilt requestBuilt
  | .tick => .tick
  | .cancelAllRequests => .cancelAllRequests

/-- The steps of the user thread in the loop of `cancelAllRequests` over the given
contexts, where the callback of request `q` makes the calls `beh q`. -/
def cancelScript (beh : Nat → List Call) : List ReqContext → List HttpAction
  | [] => [.cancelNext]
  | ctx :: pending =>
    .cancelNext :: ((if ctx.callback then (beh ctx.request).map Call.action ++ [.callbackReturns] else []) ++
      cancelScript beh pending)

/-- `cancelAllRequests`.  It holds the mutex throughout, so no other thread takes a step. -/
def runCancel (s : HttpState) (beh : Nat → List Call) : Option HttpState :=
  exec step anyStep s (.cancelAllRequests :: cancelScript beh s.c.pendingRequests)

/-- `cancelAllRequests` called in `s` has returned in `s'`, without locking itself
out, and has reported each pending request that has a callback once. -/
structure CancelledOnce (s s' : HttpState) : Prop where
  returned : s'.stack = s.stack ∧ s'.locked = false ∧ s'.selfLock = false
  emptied : s'.c.pendingRequests = []
  reported : ∀ ctx ∈ s.c.pendingRequests, ctx.callback = true →
    s'.invoked.filter (fun i => i.request == ctx.request) =
      [⟨ctx.request, .cancelled, some NHttpClientCppRest.cancelledResponse⟩]

/-- The state when the loop is through. -/
def cancelled (s : HttpState) (stack : List Frame) : HttpState :=
  { s with
    c := { s.c with pendingRequests := [] }
    stack
    locked := false
    consumed := s.consumed ++ s.c.pendingRequests.map fun ctx => (ctx, .cancelled)
    invoked := s.invoked ++ (s.c.pendingRequests.filter ReqContext.callback).map fun ctx =>
      ⟨ctx.request, .cancelled, some NHttpClientCppRest.cancelledResponse⟩ }

/-- A call from a callback that `cancelAllRequests` runs locks the user thread out. -/
theorem step_call {s : HttpState} {stack : List Frame} (hst : s.stack = .cancelCall :: stack)
    (hl : s.locked = true) (hself : s.selfLock = false) (call : Call) :
    s.step call.action = some { s with selfLock := true } := by
  have hu : s.userCode = true := by simp [userCode, hst, hself]
  cases call <;> simp [Call.action, step, hu, hl]

theorem step_selfLock {s : HttpState} (hself : s.selfLock = true) (call : Call) :
    s.step call.action = none := by
  have hu : s.userCode = false := by simp [userCode, hself]
  cases call <;> simp [Call.action, step, hu]

/-- After such a call nothing that the script can do next is enabled. -/
theorem exec_calls (s : HttpState) (stack : List Frame) (hst : s.stack = .cancelCall :: stack)
    (hl : s.locked = true) (hself : s.selfLock = false) {calls : List Call} (hne : calls ≠ [])
    (rest : List HttpAction) :
    exec step anyStep s (calls.map Call.action ++ .callbackReturns :: rest) = none := by
  obtain ⟨call, calls, rfl⟩ := List.exists_cons_of_ne_nil hne
  simp only [List.map_cons, List.cons_append, exec_anyStep_cons, step_call hst hl hself,
    Option.bind_some]
  cases calls with
  | nil => simp [step]
  | cons call' calls => simp [step_selfLock]

theorem exec_cancelScript (beh : Nat → List Call) (stack : List Frame) (pending : List ReqContext) :
    ∀ s : HttpState, s.stack = .cancelLoop :: stack → s.c.pendingRequests = pending →
      s.locked = true → s.selfLock = false →
      exec step anyStep s (cancelScript beh pending) =
        if ∀ ctx ∈ pending, ctx.callback = true → beh ctx.request = [] then some (s.cancelled stack)
        else none := by
  induction pending with
  | nil =>
    intro s hst hp hl hself
    simp [cancelScript, step, hst, hself, HttpState.cancelNext, hp, cancelled]
    rw [← hp]
  | cons ctx pending ih =>
    intro s hst hp hl hself
    have hnext : s.step .cancelNext = some (s.cancelNext stack) := by simp [step, hst, hself]
    simp only [cancelScript, exec_anyStep_cons, hnext, Option.bind_some]
    simp only [HttpState.cancelNext, hp]
    cases hcb : ctx.callback with
    | false =>
      simp only [Bool.false_eq_true, if_false, List.nil_append]
      rw [ih _ (by simp [HttpState.dropPending, hp, hst]) (by simp [HttpState.dropPending, hp])
        (by simp [HttpState.dropPending, hp, hl]) (by simp [HttpState.dropPending, hp, hself])]
      simp [hcb, cancelled, HttpState.dropPending, hp]
    | true =>
      simp only [if_true]
      by_cases hbeh : beh ctx.request = []
      · simp only [hbeh, List.map_nil, List.nil_append, List.singleton_append, exec_anyStep_cons, step,
          hself, Bool.false_eq_true, if_false, Option.bind_some]
        rw [ih _ rfl (by simp [HttpState.dropPending, hp]) (by simp [HttpState.dropPending, hp, hl])
          (by simp [HttpState.dropPending, hp])]
        simp [hcb, hbeh, cancelled, HttpState.dropPending, hp, hself]
      · have hcalls := exec_calls
          { s with
            stack := .cancelCall :: stack
            invoked := s.invoked ++
              [⟨ctx.request, .cancelled, some NHttpClientCppRest.cancelledResponse⟩] }
          stack rfl hl hself hbeh (cancelScript beh pending)
        rw [List.append_assoc, List.singleton_append, hcalls, if_neg]
        exact fun h => hbeh (h ctx List.mem_cons_self hcb)

/-- Before the call no pending request has been told anything, and afterwards each one, once. -/
theorem Inv.reported {s : HttpState} (hi : Inv s) (hl : s.locked = false) (stack : List Frame)
    {ctx : ReqContext} (hctx : ctx ∈ s.c.pendingRequests) (hcb : ctx.callback = true) :
    (s.cancelled stack).invoked.filter (fun i => i.request == ctx.request) =
      [⟨ctx.request, .cancelled, some NHttpClientCppRest.cancelledResponse⟩] := by
  have hnodup := hi.nodup
  simp only [contexts, List.map_append] at hnodup
  obtain ⟨hnodup, -, hdisj⟩ := List.nodup_append.1 hnodup
  have hpending := (List.nodup_append.1 hnodup).1
  have hold : s.invoked.filter (fun i => i.request == ctx.request) = [] := by
    rw [List.filter_eq_nil_iff]
    intro i hmem hreq
    have hreq' : i.request = ctx.request := by simpa using hreq
    have hin : i.request ∈ s.invoked.map Invocation.request := List.mem_map_of_mem hmem
    have hsub : ∀ fate, called (fated s.consumed fate) ⊆
        (s.consumed.map Prod.fst).map ReqContext.request := by
      intro fate q hq
      obtain ⟨x, hx, rfl⟩ := List.mem_map.1 hq
      obtain ⟨p, hp, rfl⟩ := List.mem_map.1 (List.mem_of_mem_filter hx)
      exact List.mem_map_of_mem (List.mem_map_of_mem (List.mem_of_mem_filter hp))
    have hconsumed : i.request ∈ (s.consumed.map Prod.fst).map ReqContext.request := by
      rw [hi.invoked_perm.mem_iff, List.mem_append, hi.tickOrder, hi.cancelOrder_unlocked hl] at hin
      rcases hin with h | h
      · exact hsub _ h
      · exact hsub _ h
    exact hdisj ctx.request (List.mem_append_left _ (List.mem_map_of_mem hctx)) i.request hconsumed
      hreq'.symm
  obtain ⟨l₁, l₂, hp⟩ := List.append_of_mem hctx
  have hnone : ∀ l : List ReqContext, ctx.request ∉ l.map ReqContext.request →
      ((l.filter ReqContext.callback).map fun c : ReqContext =>
        (⟨c.request, .cancelled, some NHttpClientCppRest.cancelledResponse⟩ : Invocation)).filter
          (fun i => i.request == ctx.request) = [] := by
    intro l hno
    rw [List.filter_eq_nil_iff]
    intro i hmem hreq
    obtain ⟨c, hc, rfl⟩ := List.mem_map.1 hmem
    have : c.request = ctx.request := by simpa using hreq
    exact hno (this ▸ List.mem_map_of_mem (List.mem_of_mem_filter hc))
  rw [hp, List.map_append, List.map_cons] at hpending
  obtain ⟨-, hcons, hd⟩ := List.nodup_append.1 hpending
  simp only [cancelled, List.filter_append, hold, hp, List.filter_cons, hcb, if_true, List.map_append,
    List.map_cons]
  rw [hnone l₁ fun h => hd _ h _ List.mem_cons_self rfl, hnone l₂ (List.nodup_cons.1 hcons).1]
  simp

/-- A call of `cancelAllRequests` whose callbacks leave the transport alone. -/
theorem Inv.runCancel {s : HttpState} (hi : Inv s) (hu : s.userCode = true) (hl : s.locked = false)
    {beh : Nat → List Call}
    (hbeh : ∀ ctx ∈ s.c.pendingRequests, ctx.callback = true → beh ctx.request = []) :
    ∃ s', s.runCancel beh = some s' ∧ CancelledOnce s s' := by
  have hself : s.selfLock = false := by
    simp only [userCode, Bool.and_eq_true, Bool.not_eq_true'] at hu
    exact hu.1
  have hfirst : s.step .cancelAllRequests = some { s with
      c := { s.c with client := false }, stack := .cancelLoop :: s.stack, locked := true } := by
    simp [HttpState.step, hu, hl]
  have hscript := exec_cancelScript beh s.stack s.c.pendingRequests
    { s with c := { s.c with client := false }, stack := .cancelLoop :: s.stack, locked := true }
    rfl rfl rfl hself
  rw [if_pos hbeh] at hscript
  rw [HttpState.runCancel, exec_anyStep_cons, hfirst, Option.bind_some, hscript]
  exact ⟨_, rfl, ⟨rfl, rfl, hself⟩, rfl, fun ctx hctx hcb => hi.reported hl s.stack hctx hcb⟩

/-! ## Conservation -/

/-- Nothing calls the transport from a callback run by `cancelAllRequests`. -/
def plainCancel (s : HttpState) : HttpAction → Bool
  | .setBaseUri _ _ => !s.locked
  | .request _ _ _ => !s.locked
  | .tick => !s.locked
  | .cancelAllRequests => !s.locked
  | _ => true

/-- Besides, at most 2^64 requests are created. -/
def quietCancel (s : HttpState) (a : HttpAction) : Bool :=
  s.plainCancel a &&
  match a with
  | .request _ _ _ => decide (s.requests.length < 2 ^ 64)
  | _ => true

/-- Requests have different ids and are each in one place; a callback is invoked
at most once, and has been invoked when its request is consumed; `tick` calls
back in the order of completion, and ends when everything that has completed has been
delivered; `cancelAllRequests` ends when nothing is pending; a completion that comes after
its request was cancelled changes nothing. -/
structure Conserved (s : HttpState) : Prop where
  idsDistinct : (s.requests.map Request.id).Nodup
  onePlace : ((s.c.pendingRequests ++ s.c.finishedRequests ++ s.consumed.map Prod.fst).map
    ReqContext.request).Perm (List.range s.requests.length)
  atMostOnce : (s.invoked.map Invocation.request).Nodup
  exactlyOnce : ∀ q r, s.requests[q]? = some r → r.callback = true →
    q ∈ (s.consumed.map Prod.fst).map ReqContext.request → q ∈ s.invoked.map Invocation.request
  completionOrder : s.completed =
    (fated s.consumed .ticked ++ s.c.finishedRequests).map ReqContext.request
  /-- the completion of a pending request that has a callback is recorded -/
  completes : ∀ q r completion s', s.requests[q]? = some r → r.callback = true →
    q ∈ s.c.pendingRequests.map ReqContext.request → s.step (.complete q completion) = some s' →
    s'.completed = s.completed ++ [q]
  tickOrder : invokedBy s.invoked .ticked = called (fated s.consumed .ticked)
  /-- a round of the loop in `tick` takes a finished request, or is the last one -/
  tickRound : ∀ stack, s.stack = .tickLoop :: stack → ∃ s', s.step .pop = some s' ∧
    (s'.stack = stack ∨ s'.c.finishedRequests.length + 1 = s.c.finishedRequests.length)
  tickEnds : ∀ stack s', s.stack = .tickLoop :: stack → s.step .pop = some s' → s'.stack = stack →
    s'.c.finishedRequests = [] ∧ ∀ q ∈ s'.completed, ∀ r, s'.requests[q]? = some r →
      r.callback = true → q ∈ invokedBy s'.invoked .ticked
  cancelEnds : ∀ stack s', s.stack = .cancelLoop :: stack → s.step .cancelNext = some s' →
    s'.stack = stack → s'.c.pendingRequests = []
  /-- a call of `cancelAllRequests` comes to its end and tells each pending request once -/
  cancelTells : s.userCode = true → s.locked = false →
    ∃ s', s.runCancel (fun _ => []) = some s' ∧ CancelledOnce s s'
  lateCompletion : ∀ q completion s', q ∈ (fated s.consumed .cancelled).map ReqContext.request →
    s.step (.complete q completion) = some s' → s' = { s with inFlight := s.inFlight.erase q }

/-- What is kept besides while at most 2^64 requests are created. -/
structure Bounded (s : HttpState) : Prop where
  inv : Inv s
  bound : s.requests.length ≤ 2 ^ 64
  free : s.selfLock = false
  answered : ∀ ctx, (ctx, Fate.answered) ∈ s.consumed → ctx.callback = false

theorem Bounded.id_inj {s : HttpState} (hb : Bounded s) {q q' : Nat} {r r' : Request}
    (hr : s.requests[q]? = some r) (hr' : s.requests[q']? = some r') (h : r.id = r'.id) : q = q' := by
  have hq := (List.getElem?_eq_some_iff.1 hr).1
  have hq' := (List.getElem?_eq_some_iff.1 hr').1
  have hbound := hb.bound
  rw [hb.inv.ids q r hr, hb.inv.ids q' r' hr'] at h
  have := congrArg UInt64.toNat h
  simp only [UInt64.toNat_ofNat'] at this
  omega

/-- The context that is found under the id of a request is the request's own. -/
theorem Bounded.findPending {s : HttpState} (hb : Bounded s) {q : Nat} {r : Request}
    (hr : s.requests[q]? = some r) {ctx : ReqContext} (hf : s.c.findPending r.id = some ctx) :
    ctx ∈ s.c.pendingRequests ∧ ctx.request = q ∧ ctx.callback = r.callback := by
  obtain ⟨l₁, l₂, hp, -, hid⟩ := findPending_some hf
  have hmem : ctx ∈ s.c.pendingRequests := by simp [hp]
  have hc := hb.inv.created ctx (by simp [contexts, hmem])
  have hq := hb.id_inj hc hr hid
  rw [hq, hr] at hc
  exact ⟨hmem, hq, by rw [Option.some.inj hc]⟩

theorem answered_pop (s : HttpState) (stack : List Frame) {ctx : ReqContext}
    (h : (ctx, Fate.answered) ∈ (s.pop stack).consumed) : (ctx, Fate.answered) ∈ s.consumed := by
  unfold HttpState.pop at h
  split at h
  · exact h
  · dsimp only at h
    split at h <;>
    · rcases List.mem_append.1 h with h | h
      · exact h
      · cases (Prod.mk.inj (List.mem_singleton.1 h)).2

theorem answered_dropPending (s : HttpState) {ctx : ReqContext}
    (h : (ctx, Fate.answered) ∈ s.dropPending.consumed) : (ctx, Fate.answered) ∈ s.consumed := by
  unfold HttpState.dropPending at h
  split at h
  · exact h
  · rcases List.mem_append.1 h with h | h
    · exact h
    · cases (Prod.mk.inj (List.mem_singleton.1 h)).2

theorem answered_cancelNext (s : HttpState) (stack : List Frame) {ctx : ReqContext}
    (h : (ctx, Fate.answered) ∈ (s.cancelNext stack).consumed) :
    (ctx, Fate.answered) ∈ s.consumed := by
  unfold HttpState.cancelNext at h
  split at h
  · exact h
  · split at h
    · exact h
    · exact answered_dropPending s h

/-- The only request that is removed without being told has no callback. -/
theorem answered_continuation (s : HttpState) (id : UInt64) (callback : Bool)
    (completion : Completion) {ctx : ReqContext}
    (h : (ctx, Fate.answered) ∈ (s.continuation id callback completion).consumed) :
    (ctx, Fate.answered) ∈ s.consumed ∨ callback = false ∧ s.c.findPending id = some ctx := by
  unfold HttpState.continuation at h
  split at h
  · split at h
    · split at h <;> exact Or.inl h
    · next hcb =>
      rcases List.mem_append.1 h with h | h
      · exact Or.inl h
      · rw [Option.mem_toList, Option.map_eq_some_iff] at h
        obtain ⟨ctx', hf, heq⟩ := h
        obtain ⟨rfl, -⟩ := Prod.mk.inj heq
        exact Or.inr ⟨by simpa using hcb, hf⟩
  · exact Or.inl h

theorem requests_pop (s : HttpState) (stack : List Frame) : (s.pop stack).requests = s.requests := by
  unfold HttpState.pop
  split
  · rfl
  · dsimp only
    split <;> rfl

theorem selfLock_pop (s : HttpState) (stack : List Frame) : (s.pop stack).selfLock = s.selfLock := by
  unfold HttpState.pop
  split
  · rfl
  · dsimp only
    split <;> rfl

theorem requests_dropPending (s : HttpState) : s.dropPending.requests = s.requests := by
  unfold HttpState.dropPending
  split <;> rfl

theorem selfLock_dropPending (s : HttpState) : s.dropPending.selfLock = s.selfLock := by
  unfold HttpState.dropPending
  split <;> rfl

theorem requests_cancelNext (s : HttpState) (stack : List Frame) :
    (s.cancelNext stack).requests = s.requests := by
  unfold HttpState.cancelNext
  split
  · rfl
  · split
    · rfl
    · exact requests_dropPending s

theorem selfLock_cancelNext (s : HttpState) (stack : List Frame) :
    (s.cancelNext stack).selfLock = s.selfLock := by
  unfold HttpState.cancelNext
  split
  · rfl
  · split
    · rfl
    · exact selfLock_dropPending s

theorem requests_continuation (s : HttpState) (id : UInt64) (callback : Bool)
    (completion : Completion) : (s.continuation id callback completion).requests = s.requests := by
  unfold HttpState.continuation
  split
  · split
    · split <;> rfl
    · rfl
  · rfl

theorem selfLock_continuation (s : HttpState) (id : UInt64) (callback : Bool)
    (completion : Completion) : (s.continuation id callback completion).selfLock = s.selfLock := by
  unfold HttpState.continuation
  split
  · split
    · split <;> rfl
    · rfl
  · rfl

/-- Only a call under the mutex locks the user thread out. -/
theorem step_plainCancel {s s' : HttpState} {a : HttpAction} (hok : s.plainCancel a = true)
    (h : s.step a = some s') : s'.selfLock = s.selfLock := by
  have hunlocked : s.locked = true → (!s.locked) = true → False := by
    intro hl hok
    rw [hl] at hok
    cases hok
  cases steps_of_step h with
  | requestLocked callback clientBuilt requestBuilt hu hl => exact (hunlocked hl hok).elim
  | tickLocked hu hl => exact (hunlocked hl hok).elim
  | cancelLocked hu hl => exact (hunlocked hl hok).elim
  | pop stack => exact selfLock_pop s stack
  | cancelNext stack => exact selfLock_cancelNext s stack
  | cancelReturns stack => exact selfLock_dropPending s
  | complete q completion r => exact selfLock_continuation ..
  -- the other steps leave the flag alone by their definition
  | _ => rfl

/-- What a step can do to the requests and to the answered contexts. -/
theorem step_effect {s s' : HttpState} {a : HttpAction} (h : s.step a = some s') :
    (s'.requests = s.requests ∨
      ∃ (callback clientBuilt requestBuilt : Bool) (r : Request),
        a = .request callback clientBuilt requestBuilt ∧ s'.requests = s.requests ++ [r]) ∧
    ∀ ctx, (ctx, Fate.answered) ∈ s'.consumed → (ctx, Fate.answered) ∈ s.consumed ∨
      ∃ (q : Nat) (r : Request),
        s.requests[q]? = some r ∧ r.callback = false ∧ s.c.findPending r.id = some ctx := by
  cases steps_of_step h with
  | request => exact ⟨Or.inr ⟨_, _, _, _, rfl, rfl⟩, fun _ => Or.inl⟩
  | pop stack => exact ⟨Or.inl (requests_pop s _), fun _ hm => Or.inl (answered_pop s _ hm)⟩
  | cancelNext stack =>
    exact ⟨Or.inl (requests_cancelNext s _), fun _ hm => Or.inl (answered_cancelNext s _ hm)⟩
  | cancelReturns stack =>
    exact ⟨Or.inl (requests_dropPending s), fun _ hm => Or.inl (answered_dropPending s hm)⟩
  | complete q completion r hq hl hr =>
    refine ⟨Or.inl (requests_continuation ..), fun ctx hm => ?_⟩
    exact (answered_continuation _ _ _ _ hm).imp id fun hf => ⟨q, r, hr, hf.1, hf.2⟩
  -- the other steps consume nothing and create nothing
  | _ => exact ⟨Or.inl rfl, fun _ => Or.inl⟩

theorem Bounded.step {s s' : HttpState} {a : HttpAction} (hb : Bounded s) (hok : s.quietCancel a = true)
    (h : s.step a = some s') : Bounded s' := by
  obtain ⟨hreq, hans⟩ := step_effect h
  refine ⟨hb.inv.step h, ?_, ?_, fun ctx hctx => ?_⟩
  · have hbound := hb.bound
    rcases hreq with hreq | ⟨callback, clientBuilt, requestBuilt, r, rfl, hreq⟩
    · rw [hreq]
      exact hbound
    · simp only [quietCancel, Bool.and_eq_true, decide_eq_true_eq] at hok
      rw [hreq, List.length_append, List.length_singleton]
      have := hok.2
      omega
  · rw [step_plainCancel (by simp only [quietCancel, Bool.and_eq_true] at hok; exact hok.1) h]
    exact hb.free
  · rcases hans ctx hctx with hold | ⟨q, r, hr, hcb, hf⟩
    · exact hb.answered ctx hold
    · rw [(hb.findPending hr hf).2.2, hcb]

theorem finish_none {s : HttpState} {id : UInt64} (h : s.c.findPending id = none) (response : NHttpResponse) :
    s.finish id response = s := by
  simp [HttpState.finish, NHttpClientCppRest.finishReq, h]

/-- A completion that finds no context changes nothing. -/
theorem continuation_none {s : HttpState} {id : UInt64} (h : s.c.findPending id = none)
    (callback : Bool) (completion : Completion) : s.continuation id callback completion = s := by
  unfold HttpState.continuation
  split
  · split
    · split <;> exact finish_none h _
    · simp [removePendingReq_none h, h]
  · exact finish_none h _

/-- A completion that finds the context of a request with a callback finishes the request. -/
theorem continuation_some {s : HttpState} {id : UInt64} {ctx : ReqContext}
    (h : s.c.findPending id = some ctx) (completion : Completion) :
    (s.continuation id true completion).completed = s.completed ++ [ctx.request] := by
  have hfinish : ∀ response, (s.finish id response).completed = s.completed ++ [ctx.request] := by
    simp [HttpState.finish, h]
  unfold HttpState.continuation
  cases completion with
  | responded statusCode reasonPhrase body => cases body <;> exact hfinish _
  | failed what => exact hfinish _

/-- The completion of a request that is pending finds its context. -/
theorem Bounded.completes {s s' : HttpState} (hb : Bounded s) {q : Nat} {r : Request}
    (hr : s.requests[q]? = some r) (hcb : r.callback = true)
    (hq : q ∈ s.c.pendingRequests.map ReqContext.request) {completion : Completion}
    (h : s.step (.complete q completion) = some s') : s'.completed = s.completed ++ [q] := by
  obtain ⟨ctx, hctx, rfl⟩ := List.mem_map.1 hq
  have hid : r.id = ctx.id := by
    have hc := hb.inv.created ctx (by simp [contexts, hctx])
    rw [hr] at hc
    rw [Option.some.inj hc]
  obtain ⟨ctx', hf⟩ : ∃ ctx', s.c.findPending r.id = some ctx' :=
    Option.isSome_iff_exists.1 (List.find?_isSome.2 ⟨ctx, hctx, by simp [hid]⟩)
  have hown := (hb.findPending hr hf).2.1
  cases steps_of_step h with
  | complete q completion r' hin hl hr' =>
    obtain rfl : r = r' := Option.some.inj (hr.symm.trans hr')
    have hfound : NHttpClientCppRest.findPending
        ({ s with inFlight := s.inFlight.erase ctx.request } : HttpState).c r.id = some ctx' := hf
    rw [hcb, continuation_some hfound, hown]

/-- In the loop of `tick` the mutex is free. -/
theorem Bounded.step_pop {s : HttpState} (hb : Bounded s) {stack : List Frame}
    (hst : s.stack = .tickLoop :: stack) : s.step .pop = some (s.pop stack) := by
  have hl : s.locked = false := by
    cases hl : s.locked with
    | false => rfl
    | true =>
      obtain ⟨f, st, hs, hf, -⟩ := hb.inv.locked hl
      obtain ⟨rfl, -⟩ := List.cons.inj (hst.symm.trans hs)
      cases hf
  simp [HttpState.step, hst, hl, hb.free]

theorem pop_round (s : HttpState) (stack : List Frame) :
    (s.pop stack).stack = stack ∨
      (s.pop stack).c.finishedRequests.length + 1 = s.c.finishedRequests.length := by
  unfold HttpState.pop
  split
  · exact .inl rfl
  · next hf =>
    dsimp only
    split <;> exact .inr (by simp [hf])

/-- The loop of `tick` is left when nothing is finished any more. -/
theorem pop_ends {s : HttpState} {stack : List Frame} (hst : s.stack = .tickLoop :: stack)
    (h : (s.pop stack).stack = stack) : (s.pop stack).c.finishedRequests = [] := by
  unfold HttpState.pop at h ⊢
  split at h
  · next hf => exact hf
  · dsimp only at h
    split at h
    · exact absurd (congrArg List.length h) (by simp)
    · exact absurd (congrArg List.length (hst.symm.trans h)) (by simp)

/-- The loop of `cancelAllRequests` is left when nothing is pending any more. -/
theorem cancelNext_ends {s : HttpState} {stack : List Frame} (hst : s.stack = .cancelLoop :: stack)
    (h : (s.cancelNext stack).stack = stack) : (s.cancelNext stack).c.pendingRequests = [] := by
  unfold HttpState.cancelNext at h ⊢
  split at h
  · next hp => exact hp
  · next ctx pending hp =>
    split at h
    · exact absurd (congrArg List.length h) (by simp)
    · simp only [HttpState.dropPending, hp] at h
      exact absurd (congrArg List.length (hst.symm.trans h)) (by simp)

/-- When nothing is finished, every completed request that has a callback has been
called back by `tick`. -/
theorem Inv.nothing_left {s : HttpState} (hi : Inv s) (hf : s.c.finishedRequests = []) {q : Nat}
    (hq : q ∈ s.completed) {r : Request} (hr : s.requests[q]? = some r) (hcb : r.callback = true) :
    q ∈ invokedBy s.invoked .ticked := by
  rw [hi.finishOrder, hf, List.append_nil] at hq
  obtain ⟨ctx, hctx, rfl⟩ := List.mem_map.1 hq
  obtain ⟨p, hp, hpctx⟩ := List.mem_map.1 hctx
  have hc := hi.created ctx (by
    simp only [contexts, List.mem_append]
    exact .inr (List.mem_map.2 ⟨p, List.mem_of_mem_filter hp, hpctx⟩))
  rw [hr] at hc
  rw [hi.tickOrder]
  refine List.mem_map.2 ⟨ctx, List.mem_filter.2 ⟨hctx, ?_⟩, rfl⟩
  rw [← hcb, Option.some.inj hc]

theorem Bounded.ids_nodup {s : HttpState} (hb : Bounded s) : (s.requests.map Request.id).Nodup := by
  refine List.nodup_iff_getElem?_ne_getElem?.2 fun i j hij hj heq => ?_
  simp only [List.getElem?_map, List.length_map] at heq hj
  obtain ⟨r, hr⟩ : ∃ r, s.requests[i]? = some r := ⟨_, List.getElem?_eq_getElem (hij.trans hj)⟩
  obtain ⟨r', hr'⟩ : ∃ r, s.requests[j]? = some r := ⟨_, List.getElem?_eq_getElem hj⟩
  rw [hr, hr', Option.map_some, Option.map_some, Option.some.injEq] at heq
  have := hb.id_inj hr hr' heq
  omega

/-- Whoever is consumed and has a callback has been called back. -/
theorem Bounded.invoked {s : HttpState} (hb : Bounded s) {q : Nat} {r : Request}
    (hr : s.requests[q]? = some r) (hcb : r.callback = true)
    (hq : q ∈ (s.consumed.map Prod.fst).map ReqContext.request) :
    q ∈ s.invoked.map Invocation.request := by
  obtain ⟨ctx, hctx, rfl⟩ := List.mem_map.1 hq
  obtain ⟨⟨ctx', fate⟩, hmem, rfl⟩ := List.mem_map.1 hctx
  have hc := hb.inv.created ctx' (by simp only [contexts, List.mem_append]; exact .inr hctx)
  have hcb' : ctx'.callback = true := by
    rw [hr] at hc
    rw [← hcb, Option.some.inj hc]
  refine hb.inv.invoked_of_fated hmem ?_ hcb'
  rintro rfl
  rw [hb.answered ctx' hmem] at hcb'
  cases hcb'

/-- A request that was cancelled is not pending, so its completion finds nothing. -/
theorem Bounded.completion_late {s s' : HttpState} (hb : Bounded s) {q : Nat}
    {completion : Completion} (hq : q ∈ (fated s.consumed .cancelled).map ReqContext.request)
    (hs : s.step (.complete q completion) = some s') :
    s' = { s with inFlight := s.inFlight.erase q } := by
  simp only [HttpState.step] at hs
  split at hs
  · split at hs <;> cases hs
    next r hr =>
    refine continuation_none ?_ _ _
    cases hf : s.c.findPending r.id with
    | none => rfl
    | some ctx =>
      -- the request would be pending and consumed at once
      obtain ⟨hmem, hcq, -⟩ := hb.findPending hr hf
      obtain ⟨ctx', hctx', rfl⟩ := List.mem_map.1 hq
      obtain ⟨p, hp, rfl⟩ := List.mem_map.1 hctx'
      have hnodup := hb.inv.nodup
      simp only [contexts, List.map_append] at hnodup
      refine absurd ?_ ((List.nodup_append.1 hnodup).2.2 ctx.request ?_ p.1.request ?_)
      · exact hcq
      · exact List.mem_append_left _ (List.mem_map_of_mem hmem)
      · exact List.mem_map_of_mem (List.mem_map_of_mem (List.mem_of_mem_filter hp))
  · cases hs

/-- **Conservation.**  While at most 2^64 requests are created, and no callback run
by `cancelAllRequests` calls the transport, no request is lost or told twice. -/
theorem conserved {s : HttpState} (h : Reach step (fun s a => quietCancel s a = true) {} s) :
    Conserved s := by
  have hb : Bounded s :=
    h.invariant ⟨inv_init, by simp, rfl, by simp⟩ fun _ _ _ hb hok hs => hb.step hok hs
  have hi := hb.inv
  refine ⟨hb.ids_nodup, hi.onePlace, hi.invoked_nodup, fun q r hr hcb hq => hb.invoked hr hcb hq,
    hi.finishOrder, fun q r completion s' hr hcb hq hs => hb.completes hr hcb hq hs, hi.tickOrder,
    fun stack hst => ⟨_, hb.step_pop hst, pop_round s stack⟩, ?_, ?_,
    fun hu hl => hi.runCancel hu hl fun _ _ _ => rfl, fun q completion s' => hb.completion_late⟩
  · intro stack s' hst hs hend
    have hi' := hi.step hs
    obtain rfl : s.pop stack = s' := Option.some.inj ((hb.step_pop hst).symm.trans hs)
    have hf := pop_ends hst hend
    exact ⟨hf, fun q hq r hr hcb => hi'.nothing_left hf hq hr hcb⟩
  · intro stack s' hst hs hend
    cases steps_of_step hs with
    | cancelNext stack' hst' =>
      obtain ⟨-, rfl⟩ := List.cons.inj (hst.symm.trans hst')
      exact cancelNext_ends hst hend

/-- Two requests completed in the other order and ticked; a third one, issued in a
callback, is cancelled and its answer comes too late. -/
def conservedRun : List HttpAction :=
  [.setBaseUri "http://127.0.0.1" false, .request true true true, .request true true true,
    .complete 1 (.responded 200 "OK" (.ok "x")), .complete 0 (.failed "connection refused"),
    .tick, .pop, .request true true true, .callbackReturns, .pop, .callbackReturns, .pop,
    .cancelAllRequests, .cancelNext, .callbackReturns, .cancelNext,
    .complete 2 (.responded 200 "OK" (.ok ""))]

theorem conserved_conservedRun :
    ∃ s, exec step (fun s a => quietCancel s a = true) {} conservedRun = some s ∧ Conserved s := by
  have h : (exec step (fun s a => quietCancel s a = true) {} conservedRun).isSome = true := by decide
  exact ⟨_, (Option.some_get h).symm, conserved (Reach.get_exec conservedRun h)⟩

/-- Any number of requests can be created. -/
theorem exists_requests (n : Nat) :
    ∃ s, Reach step (fun s a => plainCancel s a = true) {} s ∧ s.requests.length = n ∧
      s.locked = false ∧ s.userCode = true := by
  induction n with
  | zero => exact ⟨{}, .init, rfl, rfl, rfl⟩
  | succ n ih =>
    obtain ⟨s, hr, hn, hl, hu⟩ := ih
    refine ⟨s.request false true true, hr.step (a := .request false true true) (by simp [plainCancel, hl])
      (by simp [step, hu, hl]), ?_, ?_, ?_⟩
    · simp [HttpState.request, hn]
    · exact hl
    · exact hu

/-- After 2^64 requests `_context->nextReqId` has gone round, and the next request
gets the id of the first. -/
theorem not_conserved :
    ∃ s, Reach step (fun s a => plainCancel s a = true) {} s ∧ s.requests.length = 2 ^ 64 + 1 ∧
      ¬ Conserved s := by
  obtain ⟨s, hr, hn, -, -⟩ := exists_requests (2 ^ 64 + 1)
  refine ⟨s, hr, hn, fun hc => ?_⟩
  have hi := Reach.inv hr
  have h0 := hi.ids 0 _ (List.getElem?_eq_getElem (by omega))
  have h1 := hi.ids (2 ^ 64) _ (List.getElem?_eq_getElem (by omega))
  have heq := (List.nodup_iff_getElem?_ne_getElem?.1 hc.idsDistinct) 0 (2 ^ 64) (by omega)
    (by simp [hn])
  refine heq ?_
  rw [List.getElem?_map, List.getElem?_map, List.getElem?_eq_getElem (by omega),
    List.getElem?_eq_getElem (by omega), Option.map_some, Option.map_some, h0, h1]
  rfl

/-! ## Re-entrant cancellation -/

/-- **Re-entrant cancellation.**  `cancelAllRequests` returns and reports every
pending request once exactly when it is not called from one of its own callbacks
and none of the callbacks it runs calls the transport. -/
theorem cancel_returns_iff {s : HttpState} (h : Reach step anyStep {} s) (hu : s.userCode = true)
    (beh : Nat → List Call) :
    (∃ s', s.runCancel beh = some s' ∧ CancelledOnce s s') ↔
      s.locked = false ∧ ∀ ctx ∈ s.c.pendingRequests, ctx.callback = true → beh ctx.request = [] := by
  have hi := Reach.inv h
  have hself : s.selfLock = false := by
    simp only [userCode, Bool.and_eq_true, Bool.not_eq_true'] at hu
    exact hu.1
  cases hl : s.locked with
  | true =>
    simp only [Bool.true_eq_false, false_and, iff_false]
    rintro ⟨s', hrun, -⟩
    have hfirst : s.step .cancelAllRequests = some { s with selfLock := true } := by
      simp [step, hu, hl]
    have hnext : step { s with selfLock := true } .cancelNext = none := by
      simp only [step, if_true]
      split <;> rfl
    rw [runCancel, exec_anyStep_cons, hfirst] at hrun
    cases hp : s.c.pendingRequests <;>
      rw [hp, cancelScript, Option.bind_some, exec_anyStep_cons, hnext] at hrun <;> cases hrun
  | false =>
    simp only [true_and]
    refine ⟨?_, fun hquiet => hi.runCancel hu hl hquiet⟩
    rintro ⟨s', hs', -⟩
    by_contra hno
    have hfirst : s.step .cancelAllRequests = some { s with
        c := { s.c with client := false }, stack := .cancelLoop :: s.stack, locked := true } := by
      simp [step, hu, hl]
    have hscript := exec_cancelScript beh s.stack s.c.pendingRequests
      { s with c := { s.c with client := false }, stack := .cancelLoop :: s.stack, locked := true }
      rfl rfl rfl hself
    rw [runCancel, exec_anyStep_cons, hfirst, Option.bind_some, hscript, if_neg hno] at hs'
    cases hs'

/-- One pending request. -/
def pendingRun : List HttpAction := [.setBaseUri "http://127.0.0.1" false, .request true true true]

theorem cancel_returns_iff_pendingRun :
    ∃ s, exec step anyStep {} pendingRun = some s ∧ ∀ beh : Nat → List Call,
      (∃ s', s.runCancel beh = some s' ∧ CancelledOnce s s') ↔
        s.locked = false ∧ ∀ ctx ∈ s.c.pendingRequests, ctx.callback = true → beh ctx.request = [] := by
  have h : (exec step anyStep {} pendingRun).isSome = true := by decide
  exact ⟨_, (Option.some_get h).symm, cancel_returns_iff (Reach.get_exec pendingRun h) rfl⟩

/-- A callback that issues its request again locks `cancelAllRequests` out. -/
theorem cancel_not_returns :
    ∃ s, Reach step anyStep {} s ∧ s.userCode = true ∧ s.locked = false ∧
      ¬ ∃ s', s.runCancel (fun _ => [.request true true true]) = some s' ∧ CancelledOnce s s' := by
  have h : (exec step anyStep {} pendingRun).isSome = true := by decide
  refine ⟨_, Reach.get_exec pendingRun h, rfl, rfl, ?_⟩
  rintro ⟨s', hs', -⟩
  cases hs'

end HttpState

end NakamaCpp.Http
