import NakamaCpp.Http.HttpRun

/-!
# Completions and the destructor of the HTTP client

A continuation of `NHttpClientCppRest::request` gets at the client through the shared context: it
locks its weak pointer, and in the critical section it calls the client if the context is `alive`.
`~NHttpClientCppRest` clears the flag in a critical section of its own, and gives up the context
with the last of its members.  A continuation that has locked the pointer keeps the context.

    a continuation has its critical section, or finds no context:
      before the destructor's critical section  →  it has its full effect on the lists
      after it                                  →  it neither reads nor changes them
                                                                             (completions_safe)
-/

namespace NakamaCpp.Http

open Transition

/-! ## The effect of a continuation -/

/-- The response that the request is finished with; none if it is only removed. -/
def Completion.response (callback : Bool) : Completion → Option NHttpResponse
  | .responded statusCode reasonPhrase body =>
    if callback then
      match body with
      | .ok body =>
        some { statusCode, body, errorMessage := if statusCode = 200 then "" else reasonPhrase }
      | .error what =>
        some
          { statusCode := InternalStatusCodes.connectionError
            errorMessage := HttpState.exceptionReason what }
    else none
  | .failed what =>
    some
      { statusCode := InternalStatusCodes.connectionError
        errorMessage := HttpState.exceptionReason what }

/-- The first pending request with the id leaves the pending ones, and is finished if there is a
response to tell; if none has the id, for it was cancelled, all is as it was. -/
structure FullEffect (c c' : NHttpClientCppRest) (id : UInt64) (response : Option NHttpResponse) :
    Prop where
  found : ∀ l ctx l', c.pendingRequests = l ++ ctx :: l' → ctx.id = id → (∀ x ∈ l, x.id ≠ id) →
    c' = { c with
      pendingRequests := l ++ l'
      finishedRequests := c.finishedRequests ++
        response.toList.map fun response => { ctx with response := some response } }
  notFound : (∀ ctx ∈ c.pendingRequests, ctx.id ≠ id) → c' = c

namespace HttpState

/-- A continuation on the members of the client. -/
theorem continuation_c (s : HttpState) (id : UInt64) (callback : Bool) (completion : Completion) :
    (s.continuation id callback completion).c =
      match completion.response callback with
      | some response => s.c.finishReq id response
      | none => s.c.removePendingReq id := by
  unfold HttpState.continuation Completion.response
  cases completion with
  | responded statusCode reasonPhrase body =>
    cases callback with
    | true => cases body <;> rfl
    | false => rfl
  | failed what => rfl

theorem fullEffect_continuation (s : HttpState) (id : UInt64) (callback : Bool)
    (completion : Completion) :
    FullEffect s.c (s.continuation id callback completion).c id (completion.response callback) := by
  rw [continuation_c]
  constructor
  · intro l ctx l' hp hid hl
    have hfind : s.c.findPending id = some ctx := by
      rw [NHttpClientCppRest.findPending, hp, List.find?_append]
      have hnone : l.find? (fun ctx => ctx.id == id) = none :=
        List.find?_eq_none.2 fun x hx => by simpa using hl x hx
      rw [hnone, Option.none_or, List.find?_cons_of_pos (by simpa using hid)]
    have hremove : s.c.removePendingReq id = { s.c with pendingRequests := l ++ l' } := by
      simp only [NHttpClientCppRest.removePendingReq, hp]
      rw [List.eraseP_append_right _ (by simpa using hl),
        List.eraseP_cons_of_pos (by simpa using hid)]
    cases completion.response callback with
    | some response => simp [NHttpClientCppRest.finishReq, hfind, hremove]
    | none => simp [hremove]
  · intro hno
    have hfind : s.c.findPending id = none :=
      List.find?_eq_none.2 fun x hx => by simpa using hno x hx
    cases completion.response callback with
    | some response => simp [NHttpClientCppRest.finishReq, hfind]
    | none => exact removePendingReq_none hfind

end HttpState

/-! ## Continuations and the destructor -/

/-- Where `~NHttpClientCppRest` is. -/
inductive Destructor
  | notCalled
  /-- at its critical section -/
  | entered
  /-- after it -/
  | flagged
  /-- after `_client.reset()` -/
  | clientReset
  /-- the members are destroyed -/
  | gone
deriving DecidableEq, Repr

/-- Its critical section is over. -/
def Destructor.sectionOver : Destructor → Bool
  | .notCalled | .entered => false
  | .flagged | .clientReset | .gone => true

/-- Where a continuation is. -/
inductive Phase
  /-- before `context_wptr.lock()` -/
  | started
  /-- it has a shared pointer to the context -/
  | holding
  /-- after its critical section; it still has the shared pointer -/
  | leaving
  | ended
deriving DecidableEq, Repr

/-- It has a shared pointer to the context. -/
def Phase.holds : Phase → Bool
  | .holding | .leaving => true
  | .started | .ended => false

/-- It has had its critical section, or has got no context. -/
def Phase.past : Phase → Bool
  | .leaving | .ended => true
  | .started | .holding => false

/-- A continuation that has started, with what it was started on. -/
structure Continuation where
  request : Nat
  completion : Completion
  phase : Phase

/-- What a continuation has done with the client: nothing if it has got no context, or else its
critical section. -/
structure Section where
  request : Nat
  req : Request
  completion : Completion
  /-- it has called the client -/
  read : Bool
  before : NHttpClientCppRest
  after : NHttpClientCppRest
  /-- the critical section of the destructor came first -/
  late : Bool

structure LifeState where
  http : HttpState := {}
  /-- of the shared context: `alive`, and how many shared pointers there are -/
  alive : Bool := true
  useCount : Nat := 1
  destructor : Destructor := .notCalled
  continuations : List Continuation := []
  sections : List Section := []

inductive LifeAction
  /-- the user thread, in the client -/
  | user (a : HttpAction)
  /-- the steps of the destructor -/
  | destroy
  | flag
  | resetClient
  | destroyMembers
  /-- the continuation of a request starts -/
  | start (request : Nat) (completion : Completion)
  /-- the `i`th continuation locks the weak pointer, has its critical section, and releases -/
  | lock (i : Nat)
  | critical (i : Nat)
  | release (i : Nat)

namespace LifeState

/-- The `i`th continuation goes on. -/
def setPhase (s : LifeState) (i : Nat) (k : Continuation) (phase : Phase) : LifeState :=
  { s with continuations := s.continuations.set i { k with phase } }

/-- `finishReq`, `finishReqWithError` and `removePendingReq` of the context. -/
def guarded (s : LifeState) (r : Request) (completion : Completion) : HttpState :=
  if s.alive then s.http.continuation r.id r.callback completion else s.http

/-- What a continuation has done, if it leaves the client so. -/
def sectionOf (s : LifeState) (k : Continuation) (r : Request) (read : Bool) (after : HttpState) :
    Section where
  request := k.request
  req := r
  completion := k.completion
  read
  before := s.http.c
  after := after.c
  late := s.destructor.sectionOver

/-- A step of the user thread; the continuations have theirs apart. -/
def user (s : LifeState) (a : HttpAction) : Option LifeState :=
  match a with
  | .complete .. => none
  | a => if s.destructor = .notCalled then (s.http.step a).map fun http => { s with http } else none

def step (s : LifeState) : LifeAction → Option LifeState
  | .user a => s.user a
  | .destroy =>
    if s.http.userCode ∧ s.destructor = .notCalled then some { s with destructor := .entered }
    else none
  | .flag =>
    if s.destructor = .entered ∧ s.http.locked = false then
      some { s with alive := false, destructor := .flagged }
    else none
  | .resetClient =>
    if s.destructor = .flagged then
      some { s with
        http := { s.http with c := { s.http.c with client := false } }
        destructor := .clientReset }
    else none
  | .destroyMembers =>
    if s.destructor = .clientReset then
      some { s with
        http := { s.http with c := { s.http.c with pendingRequests := [], finishedRequests := [] } }
        useCount := s.useCount - 1
        destructor := .gone }
    else none
  | .start q completion =>
    if q ∈ s.http.inFlight then
      some { s with
        http := { s.http with inFlight := s.http.inFlight.erase q }
        continuations := s.continuations ++ [⟨q, completion, .started⟩] }
    else none
  | .lock i =>
    match s.continuations[i]? with
    | some k =>
      match s.http.requests[k.request]? with
      | some r =>
        if k.phase = .started then
          if s.useCount = 0 then
            some { s.setPhase i k .ended with
              sections := s.sections ++ [s.sectionOf k r false s.http] }
          else some { s.setPhase i k .holding with useCount := s.useCount + 1 }
        else none
      | none => none
    | none => none
  | .critical i =>
    match s.continuations[i]? with
    | some k =>
      match s.http.requests[k.request]? with
      | some r =>
        if k.phase = .holding ∧ s.http.locked = false then
          some { s.setPhase i k .leaving with
            http := s.guarded r k.completion
            sections := s.sections ++ [s.sectionOf k r s.alive (s.guarded r k.completion)] }
        else none
      | none => none
    | none => none
  | .release i =>
    match s.continuations[i]? with
    | some k =>
      if k.phase = .leaving then
        some { s.setPhase i k .ended with useCount := s.useCount - 1 }
      else none
    | none => none

end LifeState

/-! ## What is kept -/

/-- What a continuation has done is right for when it did it. -/
structure Section.Safe (e : Section) : Prop where
  late : e.late = true → e.read = false ∧ e.after = e.before
  early : e.late = false → e.read = true ∧
    FullEffect e.before e.after e.req.id (e.completion.response e.req.callback)

/-- The request is the one that the continuation was started for, and so are those in the list. -/
structure Section.Own (e : Section) (requests : List Request) : Prop where
  req : requests[e.request]? = some e.req
  pending : e.read = true → ∀ ctx ∈ e.before.pendingRequests,
    requests[ctx.request]? = some ⟨ctx.id, ctx.callback⟩

theorem Section.Own.append {e : Section} {requests : List Request} (h : e.Own requests)
    (l : List Request) : e.Own (requests ++ l) := by
  have hmono : ∀ {q : Nat} {r : Request}, requests[q]? = some r → (requests ++ l)[q]? = some r := by
    intro q r hr
    obtain ⟨hq, -⟩ := List.getElem?_eq_some_iff.1 hr
    rw [List.getElem?_append_left hq, hr]
  exact ⟨hmono h.req, fun hread ctx hctx => hmono (h.pending hread ctx hctx)⟩

namespace LifeState

/-- What one step keeps. -/
structure Inv (s : LifeState) : Prop where
  http : s.destructor ≠ .gone → s.http.Inv
  ids : ∀ q r, s.http.requests[q]? = some r → r.id = UInt64.ofNat (q + 1)
  alive : s.alive = !s.destructor.sectionOver
  useCount : s.useCount = (if s.destructor = .gone then 0 else 1) +
    s.continuations.countP fun k => k.phase.holds
  safe : ∀ e ∈ s.sections, e.Safe
  own : ∀ e ∈ s.sections, e.Own s.http.requests
  told : ∀ k ∈ s.continuations, k.phase.past = true →
    ∃ e ∈ s.sections, e.request = k.request ∧ e.completion = k.completion

theorem Inv.init : Inv {} where
  http := fun _ => HttpState.inv_init
  ids := by simp
  alive := rfl
  useCount := rfl
  safe := by simp
  own := by simp
  told := by simp

/-- A step of the user thread, or of the destructor. -/
theorem Inv.client {s : LifeState} (hi : Inv s) {http : HttpState} {alive : Bool} {useCount : Nat}
    {destructor : Destructor} (hhttp : destructor ≠ .gone → http.Inv)
    (hids : ∀ q r, http.requests[q]? = some r → r.id = UInt64.ofNat (q + 1))
    (hrequests : ∃ l, http.requests = s.http.requests ++ l)
    (halive : alive = !destructor.sectionOver)
    (huse : useCount + (if s.destructor = .gone then 0 else 1) =
      s.useCount + if destructor = .gone then 0 else 1) :
    Inv { s with http, alive, useCount, destructor } := by
  refine ⟨hhttp, hids, halive, ?_, hi.safe, fun e he => ?_, hi.told⟩
  · have := hi.useCount
    show useCount = (if destructor = .gone then 0 else 1) +
      s.continuations.countP fun k => k.phase.holds
    omega
  · obtain ⟨l, hl⟩ := hrequests
    exact hl ▸ (hi.own e he).append l

/-- A step of a continuation. -/
theorem Inv.goesOn {s : LifeState} (hi : Inv s) {i : Nat} {k : Continuation}
    (hk : s.continuations[i]? = some k) (phase : Phase) {http : HttpState} {useCount : Nat}
    {sections : List Section} (hhttp : s.destructor ≠ .gone → http.Inv)
    (hrequests : http.requests = s.http.requests)
    (huse : useCount + (if k.phase.holds then 1 else 0) =
      s.useCount + if phase.holds then 1 else 0)
    (hsub : ∀ e ∈ s.sections, e ∈ sections)
    (hsections : ∀ e ∈ sections, e ∈ s.sections ∨ e.Safe ∧ e.Own s.http.requests)
    (htold : phase.past = true →
      ∃ e ∈ sections, e.request = k.request ∧ e.completion = k.completion) :
    Inv { s.setPhase i k phase with http, useCount, sections } := by
  obtain ⟨hlt, hget⟩ := List.getElem?_eq_some_iff.1 hk
  have hpast : ∀ k' ∈ s.continuations.set i { k with phase }, k'.phase.past = true →
      ∃ e ∈ sections, e.request = k'.request ∧ e.completion = k'.completion := by
    intro k' hk' hp
    rcases List.mem_or_eq_of_mem_set hk' with hold | rfl
    · obtain ⟨e, he, hr⟩ := hi.told k' hold hp
      exact ⟨e, hsub e he, hr⟩
    · exact htold hp
  refine ⟨hhttp, ?_, hi.alive, ?_, fun e he => ?_, fun e he => ?_, hpast⟩
  · intro q r hr
    exact hi.ids q r (hrequests ▸ hr)
  · have hcount : (s.continuations.set i { k with phase }).countP (fun k => k.phase.holds) =
        s.continuations.countP (fun k => k.phase.holds) - (if k.phase.holds then 1 else 0) +
          if phase.holds then 1 else 0 := by
      rw [List.countP_set hlt, hget]
    have hle : (if k.phase.holds then 1 else 0) ≤ s.continuations.countP fun k => k.phase.holds := by
      split
      · next hh => exact List.countP_pos_iff.2 ⟨k, hget ▸ List.getElem_mem hlt, hh⟩
      · exact Nat.zero_le _
    have hold := hi.useCount
    show useCount = (if s.destructor = .gone then 0 else 1) +
      (s.continuations.set i { k with phase }).countP fun k => k.phase.holds
    rw [hcount]
    omega
  · rcases hsections e he with hold | hnew
    · exact hi.safe e hold
    · exact hnew.1
  · show e.Own http.requests
    rw [hrequests]
    rcases hsections e he with hold | hnew
    · exact hi.own e hold
    · exact hnew.2

/-- A continuation that has the context keeps it. -/
theorem Inv.useCount_ne_zero {s : LifeState} (hi : Inv s) {k : Continuation}
    (hk : k ∈ s.continuations) (hh : k.phase.holds = true) : s.useCount ≠ 0 := by
  have hpos : 0 < s.continuations.countP fun k => k.phase.holds :=
    List.countP_pos_iff.2 ⟨k, hk, hh⟩
  have := hi.useCount
  omega

/-- The context is there as long as the client is. -/
theorem Inv.sectionOver_of_expired {s : LifeState} (hi : Inv s) (h : s.useCount = 0) :
    s.destructor.sectionOver = true := by
  have huse := hi.useCount
  rw [h] at huse
  split at huse
  · next hgone => rw [hgone]; rfl
  · omega

theorem Inv.sectionOf_own {s : LifeState} (hi : Inv s) {k : Continuation} {r : Request}
    (hr : s.http.requests[k.request]? = some r) {read : Bool}
    (hread : read = true → s.destructor.sectionOver = false) (after : HttpState) :
    (s.sectionOf k r read after).Own s.http.requests := by
  refine ⟨hr, fun h ctx hctx => ?_⟩
  have hhttp := hi.http fun hgone => by
    have := hread h
    rw [hgone] at this
    cases this
  refine hhttp.created ctx ?_
  exact List.mem_append_left _ (List.mem_append_left _ hctx)

/-- No context: the destructor is over. -/
theorem Inv.lock_expired {s : LifeState} (hi : Inv s) {i : Nat} {k : Continuation} {r : Request}
    (hk : s.continuations[i]? = some k) (hr : s.http.requests[k.request]? = some r)
    (hp : k.phase = .started) (huse : s.useCount = 0) :
    Inv { s.setPhase i k .ended with
      sections := s.sections ++ [s.sectionOf k r false s.http] } := by
  have hover := hi.sectionOver_of_expired huse
  have hsafe : (s.sectionOf k r false s.http).Safe := by
    refine ⟨fun _ => ⟨rfl, rfl⟩, fun hlate => ?_⟩
    exact absurd (hover.symm.trans hlate) Bool.noConfusion
  refine hi.goesOn hk .ended hi.http rfl (by rw [hp]; rfl)
    (fun e he => List.mem_append_left _ he) (fun e he => ?_)
    fun _ => ⟨_, List.mem_append_right _ List.mem_cons_self, rfl, rfl⟩
  rcases List.mem_append.1 he with hold | hnew
  · exact .inl hold
  · obtain rfl := List.mem_singleton.1 hnew
    exact .inr ⟨hsafe, hi.sectionOf_own hr (fun h => by cases h) _⟩

/-- The critical section of a continuation. -/
theorem Inv.critical {s : LifeState} (hi : Inv s) {i : Nat} {k : Continuation} {r : Request}
    (hk : s.continuations[i]? = some k) (hr : s.http.requests[k.request]? = some r)
    (hp : k.phase = .holding) (hl : s.http.locked = false) :
    Inv { s.setPhase i k .leaving with
      http := s.guarded r k.completion
      sections := s.sections ++ [s.sectionOf k r s.alive (s.guarded r k.completion)] } := by
  have hsafe : (s.sectionOf k r s.alive (s.guarded r k.completion)).Safe := by
    constructor
    · intro hlate
      have hdead : s.alive = false := by
        rw [hi.alive]
        exact congrArg (!·) hlate
      refine ⟨hdead, ?_⟩
      show (s.guarded r k.completion).c = s.http.c
      rw [guarded, hdead]
      rfl
    · intro hlate
      have halive : s.alive = true := by
        rw [hi.alive]
        exact congrArg (!·) hlate
      have hguarded : s.guarded r k.completion =
          s.http.continuation r.id r.callback k.completion := if_pos halive
      refine ⟨halive, ?_⟩
      show FullEffect s.http.c (s.guarded r k.completion).c r.id (k.completion.response r.callback)
      rw [hguarded]
      exact s.http.fullEffect_continuation ..
  have hrequests : (s.guarded r k.completion).requests = s.http.requests := by
    unfold guarded
    split
    · exact HttpState.requests_continuation ..
    · rfl
  have hhttp : s.destructor ≠ .gone → (s.guarded r k.completion).Inv := by
    intro hgone
    unfold guarded
    split
    · exact (hi.http hgone).continuation hl ..
    · exact hi.http hgone
  refine hi.goesOn hk .leaving hhttp hrequests (by rw [hp]; rfl)
    (fun e he => List.mem_append_left _ he) (fun e he => ?_)
    fun _ => ⟨_, List.mem_append_right _ List.mem_cons_self, rfl, rfl⟩
  rcases List.mem_append.1 he with hold | hnew
  · exact .inl hold
  · obtain rfl := List.mem_singleton.1 hnew
    refine .inr ⟨hsafe, hi.sectionOf_own hr (fun h => ?_) _⟩
    simpa [h] using hi.alive

/-- The requests only grow. -/
theorem requests_step {s s' : HttpState} {a : HttpAction} (h : s.step a = some s') :
    ∃ l, s'.requests = s.requests ++ l := by
  rcases (HttpState.step_effect h).1 with he | ⟨-, -, -, r, -, he⟩
  · exact ⟨[], by rw [he, List.append_nil]⟩
  · exact ⟨[r], he⟩

theorem Inv.step {s s' : LifeState} {a : LifeAction} (hi : Inv s) (h : s.step a = some s') :
    Inv s' := by
  have hsame : ∀ {http : HttpState}, http.requests = s.http.requests →
      ∃ l, http.requests = s.http.requests ++ l := fun he => ⟨[], by rw [he, List.append_nil]⟩
  cases a with
  | user a =>
    simp only [LifeState.step, LifeState.user] at h
    split at h
    · cases h
    · split at h
      · next hno =>
        obtain ⟨http, hs, rfl⟩ := Option.map_eq_some_iff.1 h
        have hhttp : http.Inv := (hi.http (by rw [hno]; exact Destructor.noConfusion)).step hs
        exact hi.client (fun _ => hhttp) hhttp.ids (requests_step hs) hi.alive rfl
      · cases h
  | destroy =>
    simp only [LifeState.step] at h
    split at h <;> cases h
    next hok =>
    have halive := hi.alive
    rw [hok.2] at halive
    exact hi.client (fun _ => hi.http (by rw [hok.2]; exact Destructor.noConfusion)) hi.ids
      (hsame rfl) halive (by rw [hok.2]; rfl)
  | flag =>
    simp only [LifeState.step] at h
    split at h <;> cases h
    next hok =>
    exact hi.client (fun _ => hi.http (by rw [hok.1]; exact Destructor.noConfusion)) hi.ids
      (hsame rfl) rfl (by rw [hok.1]; rfl)
  | resetClient =>
    simp only [LifeState.step] at h
    split at h <;> cases h
    next hd =>
    have halive := hi.alive
    rw [hd] at halive
    refine hi.client (fun _ => ?_) hi.ids (hsame rfl) halive (by rw [hd]; rfl)
    exact { hi.http (by rw [hd]; exact Destructor.noConfusion) with }
  | destroyMembers =>
    simp only [LifeState.step] at h
    split at h <;> cases h
    next hd =>
    have halive := hi.alive
    have huse := hi.useCount
    rw [hd] at halive huse
    refine hi.client (fun hne => absurd rfl hne) hi.ids (hsame rfl) halive ?_
    rw [hd]
    simp only [reduceCtorEq, if_false, if_true] at huse ⊢
    omega
  | start q completion =>
    simp only [LifeState.step] at h
    split at h <;> cases h
    next hq =>
    refine ⟨fun hne => { hi.http hne with }, hi.ids, hi.alive, ?_, hi.safe, hi.own, ?_⟩
    · rw [List.countP_append]
      exact hi.useCount
    · intro k hk hp
      rcases List.mem_append.1 hk with hold | hnew
      · exact hi.told k hold hp
      · obtain rfl := List.mem_singleton.1 hnew
        cases hp
  | lock i =>
    simp only [LifeState.step] at h
    split at h
    · next k hk =>
      split at h
      · next r hr =>
        split at h
        · next hp =>
          split at h <;> cases h
          · next huse => exact hi.lock_expired hk hr hp huse
          · refine hi.goesOn hk .holding hi.http rfl (by rw [hp]; rfl) (fun e he => he)
              (fun e he => .inl he) fun hp => ?_
            cases hp
        · cases h
      · cases h
    · cases h
  | critical i =>
    simp only [LifeState.step] at h
    split at h
    · next k hk =>
      split at h
      · next r hr =>
        split at h <;> cases h
        next hok => exact hi.critical hk hr hok.1 hok.2
      · cases h
    · cases h
  | release i =>
    simp only [LifeState.step] at h
    split at h
    · next k hk =>
      split at h <;> cases h
      next hp =>
      have hmem : k ∈ s.continuations := List.mem_of_getElem? hk
      have hne := hi.useCount_ne_zero hmem (by rw [hp]; rfl)
      refine hi.goesOn hk .ended hi.http rfl ?_ (fun e he => he) (fun e he => .inl he)
        fun _ => hi.told k hmem (by rw [hp]; rfl)
      rw [hp]
      exact Nat.sub_add_cancel (Nat.one_le_iff_ne_zero.2 hne)
    · cases h

/-! ## Every run -/

/-- What the continuations have done so far is right, and none is left with a context that has
been deleted. -/
structure CompletionsSafe (s : LifeState) : Prop where
  safe : ∀ e ∈ s.sections, e.Safe
  told : ∀ k ∈ s.continuations, k.phase.past = true →
    ∃ e ∈ s.sections, e.request = k.request ∧ e.completion = k.completion
  own : s.http.requests.length ≤ 2 ^ 64 → ∀ e ∈ s.sections, e.read = true →
    ∀ ctx ∈ e.before.pendingRequests, ctx.id = e.req.id ↔ ctx.request = e.request
  context : ∀ k ∈ s.continuations, k.phase.holds = true → s.useCount ≠ 0

theorem Inv.completionsSafe {s : LifeState} (hi : Inv s) : CompletionsSafe s where
  safe := hi.safe
  told := hi.told
  own := by
    intro hfew e he hread ctx hctx
    have hown := hi.own e he
    have hreq := hown.req
    have hpending := hown.pending hread ctx hctx
    have hid := hi.ids _ _ hreq
    have hid' : ctx.id = UInt64.ofNat (ctx.request + 1) := hi.ids _ _ hpending
    have hlt := (List.getElem?_eq_some_iff.1 hreq).1
    have hlt' := (List.getElem?_eq_some_iff.1 hpending).1
    rw [hid, hid']
    constructor
    · intro h
      have := congrArg UInt64.toNat h
      simp only [UInt64.toNat_ofNat'] at this
      omega
    · intro h
      rw [h]
  context := fun _ hk hh => hi.useCount_ne_zero hk hh

/-- **Completions and the destructor.**  In every run, a continuation whose turn comes after the
critical section of the destructor neither reads nor changes the lists, and one whose turn comes
before it has its full effect on them. -/
theorem completions_safe {s : LifeState} (h : Reach step anyStep {} s) : CompletionsSafe s := by
  have hi : Inv s := h.invariant .init fun _ _ _ hi _ hs => hi.step hs
  exact hi.completionsSafe

/-- Of three requests one is answered before the destructor, one by a continuation that has locked
the weak pointer before, and one after it. -/
def destroyRun : List LifeAction :=
  [.user (.setBaseUri "http://127.0.0.1" false), .user (.request true true true),
    .user (.request true true true), .user (.request true true true),
    .start 0 (.responded 200 "" (.ok "body")), .lock 0, .critical 0, .start 1 (.failed "closed"),
    .lock 1, .destroy, .flag, .resetClient, .destroyMembers, .critical 1, .release 1, .release 0,
    .start 2 (.failed "closed"), .lock 2]

theorem completions_safe_destroyRun :
    ∃ s, exec step anyStep {} destroyRun = some s ∧ s.useCount = 0 ∧
      s.sections.map (fun e => (e.request, e.read, e.late)) =
        [(0, true, false), (1, false, true), (2, false, true)] ∧
      CompletionsSafe s := by
  have h : (exec step anyStep {} destroyRun).isSome = true := by decide
  exact ⟨_, (Option.some_get h).symm, rfl, rfl, completions_safe (Reach.get_exec _ h)⟩

end LifeState

end NakamaCpp.Http
