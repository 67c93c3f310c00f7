import NakamaCpp.Lib.Transition

/-!
# Requests whose contexts are shared by raw pointers

A client allocates a context for each request, keeps the pointer in a set and hands it to
a carrier, which gives it back with the answer, at most once and whenever it likes, also
while the callback of another answer runs.  The client looks the pointer up, calls back,
and then deletes the context.  A request that the client refuses gets no context.

What the client puts into a context and what it calls is `Client`; a `none` for the calls
means that the program dies there.  The invariant `Inv` says that every answer meets the
context of its own request, and that the contexts are those of the requests that are not
finished.
-/

namespace Dispatch

open Transition

/-! ## Data -/

/-- Requests `β`, what a context says of its request `γ`, answers `ρ`, calls `κ`.  The flag
says whether there is somebody to call for the requests that have named nobody. -/
structure Client (β γ ρ κ : Type) where
  /-- what the context is filled with, unless the request is refused -/
  fill : β → Option γ
  /-- the calls for a request that is refused -/
  refuse : Nat → β → List κ
  /-- the calls for an answer -/
  answer : Bool → Nat → γ → ρ → Option (List κ)
  /-- the calls for an answer whose context is not in the set -/
  lost : Bool → List κ

/-- A context in the set, by its address and the request it was made for. -/
structure Context (γ : Type) where
  addr : Nat
  request : Nat
  data : γ
deriving DecidableEq, Repr

/-- The pointer that the carrier holds, and the request. -/
structure Closure where
  addr : Nat
  request : Nat
deriving DecidableEq, Repr

/-- What became of an answer, or of a request that was refused. -/
structure Handled (ρ κ : Type) where
  request : Nat
  response : Option ρ
  /-- there was somebody to call for requests that have named nobody -/
  fallback : Bool
  /-- the request whose context was found and read -/
  read : Option Nat
  calls : Option (List κ)

structure State (β γ ρ κ : Type) where
  fallback : Bool := false
  contexts : List (Context γ) := []
  /-- pointers that the carrier can still give back -/
  outstanding : List Closure := []
  /-- answers whose callback runs, innermost first, and what is deleted after it -/
  stack : List (Option Closure) := []
  aborted : Bool := false
  requests : List β := []
  handled : List (Handled ρ κ) := []
  /-- requests whose context has been deleted, in that order -/
  finished : List Nat := []

inductive Action (β ρ : Type)
  | setFallback (set : Bool)
  /-- a request, whose context is allocated at `addr`; `kept` says that the carrier has got
  the pointer -/
  | request (b : β) (addr : Nat) (kept : Bool)
  | respond (closure : Closure) (response : ρ)
  | returns

variable {β γ ρ κ : Type}

/-! ## Steps -/

namespace State

/-- Delete the context and erase the pointer, if a context was found. -/
def leave (s : State β γ ρ κ) : Option Closure → State β γ ρ κ
  | none => s
  | some closure =>
    { s with
      contexts := s.contexts.eraseP fun ctx => ctx.addr == closure.addr
      finished := s.finished ++ [closure.request] }

/-- A request is made. -/
def request (C : Client β γ ρ κ) (s : State β γ ρ κ) (b : β) (addr : Nat) (kept : Bool) :
    State β γ ρ κ :=
  let q := s.requests.length
  match C.fill b with
  | none =>
    { s with
      requests := s.requests ++ [b]
      handled := s.handled ++ [⟨q, none, s.fallback, none, some (C.refuse q b)⟩] }
  | some data =>
    { s with
      requests := s.requests ++ [b]
      contexts := s.contexts ++ [⟨addr, q, data⟩]
      outstanding := s.outstanding ++ if kept then [⟨addr, q⟩] else [] }

/-- The context at an address. -/
def find (s : State β γ ρ κ) (addr : Nat) : Option (Context γ) :=
  s.contexts.find? fun ctx => ctx.addr == addr

/-- The entry for an answer. -/
def outcome (C : Client β γ ρ κ) (s : State β γ ρ κ) (closure : Closure) (response : ρ) : Handled ρ κ :=
  let context := s.find closure.addr
  { request := closure.request
    response := some response
    fallback := s.fallback
    read := context.map Context.request
    calls :=
      match context with
      | some ctx => C.answer s.fallback ctx.request ctx.data response
      | none => some (C.lost s.fallback) }

/-- An answer up to the callback, or to the end if there is none. -/
def respond (C : Client β γ ρ κ) (s : State β γ ρ κ) (closure : Closure) (response : ρ) :
    State β γ ρ κ :=
  let h := s.outcome C closure response
  let deleted := (s.find closure.addr).map fun _ => closure
  let s := { s with outstanding := s.outstanding.erase closure, handled := s.handled ++ [h] }
  match h.calls with
  | none => { s with aborted := true }
  | some [] => s.leave deleted
  | some (_ :: _) => { s with stack := deleted :: s.stack }

def step (C : Client β γ ρ κ) (s : State β γ ρ κ) (a : Action β ρ) : Option (State β γ ρ κ) :=
  if s.aborted then none
  else
    match a with
    | .setFallback set => some { s with fallback := set }
    | .request b addr kept =>
      if addr ∈ s.contexts.map Context.addr then none else some (s.request C b addr kept)
    | .respond closure response =>
      if closure ∈ s.outstanding then some (s.respond C closure response) else none
    | .returns =>
      match s.stack with
      | [] => none
      | deleted :: stack => some ({ s with stack }.leave deleted)

/-- Request `q` has made a context. -/
def hasContext (C : Client β γ ρ κ) (s : State β γ ρ κ) (q : Nat) : Bool :=
  s.requests[q]?.any fun b => (C.fill b).isSome

/-- The requests that were answered. -/
def responded (s : State β γ ρ κ) : List Nat :=
  (s.handled.filter fun h => h.response.isSome).map Handled.request

/-- The pointers whose callbacks are running. -/
def running (s : State β γ ρ κ) : List Closure := s.stack.filterMap id

/-- The entries for request `q`. -/
def handledFor (s : State β γ ρ κ) (q : Nat) : List (Handled ρ κ) :=
  s.handled.filter fun h => h.request == q

end State

/-! ## Invariant -/

/-- The context that a pointer leads to is in the set. -/
def Closure.Live (contexts : List (Context γ)) (closure : Closure) : Prop :=
  ∃ ctx ∈ contexts, ctx.addr = closure.addr ∧ ctx.request = closure.request

/-- The entry is the one that its own request and its answer give. -/
def Handled.Recorded (C : Client β γ ρ κ) (requests : List β) (h : Handled ρ κ) : Prop :=
  ∃ b, requests[h.request]? = some b ∧
    match h.response with
    | none => C.fill b = none ∧ h.read = none ∧ h.calls = some (C.refuse h.request b)
    | some response => ∃ data, C.fill b = some data ∧ h.read = some h.request ∧
        h.calls = C.answer h.fallback h.request data response

namespace State

structure Inv (C : Client β γ ρ κ) (s : State β γ ρ κ) : Prop where
  addrs : (s.contexts.map Context.addr).Nodup
  filled : ∀ ctx ∈ s.contexts, ∃ b, s.requests[ctx.request]? = some b ∧ C.fill b = some ctx.data
  contexts : s.contexts.map Context.request =
    (List.range s.requests.length).filter fun q => s.hasContext C q && decide (q ∉ s.finished)
  held : ∀ c ∈ s.outstanding, c.Live s.contexts ∧ c.request ∉ s.handled.map Handled.request
  heldOnce : (s.outstanding.map Closure.request).Nodup
  frames : ∀ d ∈ s.stack, ∃ c, d = some c ∧ c.Live s.contexts
  handledOnce : (s.handled.map Handled.request).Nodup
  recorded : ∀ h ∈ s.handled, h.Recorded C s.requests
  refused : ∀ q b, s.requests[q]? = some b → C.fill b = none → q ∈ s.handled.map Handled.request
  called : s.aborted = false → ∀ h ∈ s.handled, ∃ calls, h.calls = some calls
  removed : s.aborted = false → s.responded.Perm (s.finished ++ s.running.map Closure.request)

theorem inv_init (C : Client β γ ρ κ) : Inv C {} := by
  refine ⟨List.nodup_nil, ?_, rfl, ?_, List.nodup_nil, ?_, List.nodup_nil, ?_, ?_, fun _ => ?_,
    fun _ => .nil⟩
  · intro ctx hctx
    cases hctx
  · intro c hc
    cases hc
  · intro d hd
    cases hd
  · intro h hh
    cases hh
  · intro q b hb
    cases hb
  · intro h hh
    cases hh

variable {C : Client β γ ρ κ} {s : State β γ ρ κ}

theorem Inv.nodup_requests (hi : Inv C s) : (s.contexts.map Context.request).Nodup := by
  rw [hi.contexts]
  exact List.nodup_range.filter _

/-- The pointer leads to the context of the request. -/
theorem Inv.find (hi : Inv C s) {c : Closure} (hc : c.Live s.contexts) :
    ∃ ctx ∈ s.contexts, s.find c.addr = some ctx ∧ ctx.addr = c.addr ∧ ctx.request = c.request := by
  obtain ⟨ctx, hctx, haddr, hreq⟩ := hc
  have hsome : (s.find c.addr).isSome = true := by
    apply List.find?_isSome.2
    exact ⟨ctx, hctx, by rw [haddr, beq_self_eq_true]⟩
  obtain ⟨ctx', hfind⟩ := Option.isSome_iff_exists.1 hsome
  have hmem := List.mem_of_find?_eq_some hfind
  have haddr' : ctx'.addr = c.addr := by
    have := List.find?_some hfind
    exact beq_iff_eq.1 this
  have heq : ctx' = ctx := List.inj_on_of_nodup_map hi.addrs hmem hctx (haddr'.trans haddr.symm)
  exact ⟨ctx', hmem, hfind, haddr', by rw [heq, hreq]⟩

/-- Erasing by the address is erasing the request. -/
theorem Inv.erase (hi : Inv C s) {c : Closure} (hc : c.Live s.contexts) :
    (s.contexts.eraseP fun ctx => ctx.addr == c.addr) =
      s.contexts.filter fun ctx => ctx.request != c.request := by
  obtain ⟨ctx, hctx, haddr, hreq⟩ := hc
  obtain ⟨l₁, l₂, hl⟩ := List.append_of_mem hctx
  have haddrs := hi.addrs
  have hreqs := hi.nodup_requests
  rw [hl, List.map_append, List.map_cons] at haddrs hreqs
  have ha := List.nodup_middle.1 haddrs
  have hr := List.nodup_middle.1 hreqs
  rw [← List.map_append, List.nodup_cons, List.mem_map] at ha hr
  have hne : ∀ x ∈ l₁ ++ l₂, (x.addr == c.addr) = false ∧ (x.request != c.request) = true := by
    intro x hx
    constructor
    · rw [beq_eq_false_iff_ne]
      intro h
      exact ha.1 ⟨x, hx, h.trans haddr.symm⟩
    · rw [bne_iff_ne]
      intro h
      exact hr.1 ⟨x, hx, h.trans hreq.symm⟩
  have hfirst : ∀ x ∈ l₁, ¬ (x.addr == c.addr) = true := by
    intro x hx
    rw [(hne x (List.mem_append_left _ hx)).1]
    exact Bool.false_ne_true
  rw [hl, List.eraseP_append_right _ hfirst, List.eraseP_cons_of_pos (by rw [haddr, beq_self_eq_true]),
    List.filter_append, List.filter_cons_of_neg (by rw [hreq, bne_self_eq_false]; exact Bool.false_ne_true),
    List.filter_eq_self.2 fun x hx => (hne x (List.mem_append_left _ hx)).2,
    List.filter_eq_self.2 fun x hx => (hne x (List.mem_append_right _ hx)).2]

/-- The pointer to another request's context stays good. -/
theorem Inv.live_erase (hi : Inv C s) {c c' : Closure} (hc : c.Live s.contexts)
    (hc' : c'.Live s.contexts) (hne : c'.request ≠ c.request) :
    c'.Live (s.contexts.eraseP fun ctx => ctx.addr == c.addr) := by
  obtain ⟨ctx, hctx, haddr, hreq⟩ := hc'
  rw [hi.erase hc]
  refine ⟨ctx, List.mem_filter.2 ⟨hctx, ?_⟩, haddr, hreq⟩
  rw [bne_iff_ne, hreq]
  exact hne

/-! ## A request is made -/

theorem getElem?_requests (requests : List β) (b : β) {q : Nat} {b' : β}
    (h : requests[q]? = some b') : (requests ++ [b])[q]? = some b' := by
  rw [List.getElem?_append_left (List.getElem?_eq_some_iff.1 h).1, h]

theorem getElem?_last (requests : List β) (b : β) : (requests ++ [b])[requests.length]? = some b := by
  rw [List.getElem?_append_right le_rfl, Nat.sub_self]
  rfl

theorem getElem?_append_cases {requests : List β} {b b' : β} {q : Nat}
    (h : (requests ++ [b])[q]? = some b') :
    requests[q]? = some b' ∨ q = requests.length ∧ b' = b := by
  rcases Nat.lt_trichotomy q requests.length with hq | rfl | hq
  · rw [List.getElem?_append_left hq] at h
    exact .inl h
  · rw [getElem?_last] at h
    exact .inr ⟨rfl, (Option.some.inj h).symm⟩
  · have := (List.getElem?_eq_some_iff.1 h).1
    rw [List.length_append, List.length_singleton] at this
    omega

theorem recorded_append {requests : List β} (b : β) {h : Handled ρ κ} (hr : h.Recorded C requests) :
    h.Recorded C (requests ++ [b]) := by
  obtain ⟨b', hb', hr⟩ := hr
  exact ⟨b', getElem?_requests requests b hb', hr⟩

/-- The contexts that should be in the set, after one more request. -/
theorem contexts_append (C : Client β γ ρ κ) (s : State β γ ρ κ) (b : β)
    (hf : s.requests.length ∉ s.finished) :
    ((List.range (s.requests ++ [b]).length).filter fun q =>
        ({ s with requests := s.requests ++ [b] } : State β γ ρ κ).hasContext C q &&
          decide (q ∉ s.finished)) =
      ((List.range s.requests.length).filter fun q => s.hasContext C q && decide (q ∉ s.finished)) ++
        if (C.fill b).isSome then [s.requests.length] else [] := by
  rw [List.length_append, List.length_singleton, List.range_succ, List.filter_append]
  congr 1
  · apply List.filter_congr
    intro q hq
    unfold hasContext
    rw [List.getElem?_append_left (List.mem_range.1 hq)]
  · rw [List.filter_singleton]
    unfold hasContext
    rw [getElem?_last]
    cases hn : (C.fill b).isSome with
    | true => simp [hn, hf]
    | false => simp [hn]

theorem Inv.lt_requests (hi : Inv C s) {ctx : Context γ} (hctx : ctx ∈ s.contexts) :
    ctx.request < s.requests.length := by
  obtain ⟨b, hb, -⟩ := hi.filled ctx hctx
  exact (List.getElem?_eq_some_iff.1 hb).1

theorem Inv.fresh (hi : Inv C s) : s.requests.length ∉ s.handled.map Handled.request := by
  intro h
  obtain ⟨x, hx, hlen⟩ := List.mem_map.1 h
  obtain ⟨b, hb, -⟩ := hi.recorded x hx
  have := (List.getElem?_eq_some_iff.1 hb).1
  omega

/-- Deleted contexts belong to answered requests. -/
theorem Inv.finished_handled (hi : Inv C s) (ha : s.aborted = false) {q : Nat} (hq : q ∈ s.finished) :
    q ∈ s.handled.map Handled.request := by
  have hmem : q ∈ s.responded := (hi.removed ha).mem_iff.2 (List.mem_append_left _ hq)
  obtain ⟨x, hx, rfl⟩ := List.mem_map.1 hmem
  exact List.mem_map_of_mem (List.mem_of_mem_filter hx)

/-- A request is refused. -/
theorem Inv.refuse (hi : Inv C s) (ha : s.aborted = false) {b : β} (hb : C.fill b = none) :
    Inv C { s with
      requests := s.requests ++ [b]
      handled := s.handled ++
        [⟨s.requests.length, none, s.fallback, none, some (C.refuse s.requests.length b)⟩] } := by
  have hfinished : s.requests.length ∉ s.finished := fun h => hi.fresh (hi.finished_handled ha h)
  refine ⟨hi.addrs, ?_, ?_, ?_, hi.heldOnce, hi.frames, ?_, ?_, ?_, fun _ => ?_, fun _ => ?_⟩
  · intro ctx hctx
    obtain ⟨b', hb', hfill⟩ := hi.filled ctx hctx
    exact ⟨b', getElem?_requests _ b hb', hfill⟩
  · show s.contexts.map Context.request = _
    rw [hi.contexts]
    have := contexts_append C s b hfinished
    rw [hb, Option.isSome_none, if_neg Bool.false_ne_true, List.append_nil] at this
    exact this.symm
  · intro c hc
    obtain ⟨hlive, hnot⟩ := hi.held c hc
    refine ⟨hlive, ?_⟩
    obtain ⟨ctx, hctx, -, hreq⟩ := hlive
    have hlt := hi.lt_requests hctx
    rw [List.map_append, List.map_singleton, List.mem_append, List.mem_singleton, not_or]
    refine ⟨hnot, fun heq => ?_⟩
    rw [hreq, heq] at hlt
    exact absurd hlt (Nat.lt_irrefl _)
  · rw [List.map_append, List.map_singleton]
    exact List.nodup_append_comm.1 (List.nodup_cons.2 ⟨hi.fresh, hi.handledOnce⟩)
  · intro h hh
    rcases List.mem_append.1 hh with hh | hh
    · exact recorded_append b (hi.recorded h hh)
    · obtain rfl := List.mem_singleton.1 hh
      exact ⟨b, getElem?_last _ b, hb, rfl, rfl⟩
  · intro q b' hb' hfill
    rw [List.map_append, List.map_singleton, List.mem_append, List.mem_singleton]
    rcases getElem?_append_cases hb' with hold | ⟨rfl, rfl⟩
    · exact .inl (hi.refused q b' hold hfill)
    · exact .inr rfl
  · intro h hh
    rcases List.mem_append.1 hh with hh | hh
    · exact hi.called ha h hh
    · exact List.mem_singleton.1 hh ▸ ⟨_, rfl⟩
  · have := hi.removed ha
    unfold responded at this ⊢
    rw [List.filter_append, List.map_append]
    exact (List.append_nil _).symm ▸ this

/-- A request makes a context. -/
theorem Inv.create (hi : Inv C s) (ha : s.aborted = false) {b : β} {data : γ} (hb : C.fill b = some data)
    {addr : Nat} (kept : Bool) (haddr : addr ∉ s.contexts.map Context.addr) :
    Inv C { s with
      requests := s.requests ++ [b]
      contexts := s.contexts ++ [⟨addr, s.requests.length, data⟩]
      outstanding := s.outstanding ++ if kept then [⟨addr, s.requests.length⟩] else [] } := by
  have hfinished : s.requests.length ∉ s.finished := fun h => hi.fresh (hi.finished_handled ha h)
  have hlive : ∀ c : Closure, c.Live s.contexts → ∀ ctx, c.Live (s.contexts ++ [ctx]) := by
    rintro c ⟨ctx', hctx', h⟩ ctx
    exact ⟨ctx', List.mem_append_left _ hctx', h⟩
  refine ⟨?_, ?_, ?_, ?_, ?_, ?_, hi.handledOnce, fun h hh => recorded_append b (hi.recorded h hh),
    fun q b' hb' hfill => ?_, fun _ => hi.called ha, fun _ => hi.removed ha⟩
  · rw [List.map_append, List.map_singleton]
    exact List.nodup_append_comm.1 (List.nodup_cons.2 ⟨haddr, hi.addrs⟩)
  · intro ctx hctx
    rcases List.mem_append.1 hctx with hctx | hctx
    · obtain ⟨b', hb', hfill⟩ := hi.filled ctx hctx
      exact ⟨b', getElem?_requests _ b hb', hfill⟩
    · obtain rfl := List.mem_singleton.1 hctx
      exact ⟨b, getElem?_last _ b, hb⟩
  · have := contexts_append C s b hfinished
    rw [hb, Option.isSome_some, if_pos rfl] at this
    rw [List.map_append, List.map_singleton, hi.contexts]
    exact this.symm
  · intro c hc
    rcases List.mem_append.1 hc with hc | hc
    · exact ⟨hlive c (hi.held c hc).1 _, (hi.held c hc).2⟩
    · cases kept with
      | true =>
        obtain rfl := List.mem_singleton.1 hc
        exact ⟨⟨_, List.mem_append_right _ List.mem_cons_self, rfl, rfl⟩, hi.fresh⟩
      | false => cases hc
  · rw [List.map_append]
    cases kept with
    | true =>
      refine List.nodup_append_comm.1 (List.nodup_cons.2 ⟨?_, hi.heldOnce⟩)
      intro h
      obtain ⟨c, hc, hq⟩ := List.mem_map.1 h
      obtain ⟨ctx, hctx, -, hreq⟩ := (hi.held c hc).1
      have hlt := hi.lt_requests hctx
      rw [hreq, hq] at hlt
      exact absurd hlt (Nat.lt_irrefl _)
    | false => exact (List.append_nil _).symm ▸ hi.heldOnce
  · intro d hd
    obtain ⟨c, rfl, hc⟩ := hi.frames d hd
    exact ⟨c, rfl, hlive c hc _⟩
  · rcases getElem?_append_cases hb' with hold | ⟨rfl, rfl⟩
    · exact hi.refused q b' hold hfill
    · rw [hb] at hfill
      cases hfill

theorem Inv.request (hi : Inv C s) (ha : s.aborted = false) (b : β) {addr : Nat} (kept : Bool)
    (haddr : addr ∉ s.contexts.map Context.addr) : Inv C (s.request C b addr kept) := by
  unfold State.request
  cases hb : C.fill b with
  | none => exact hi.refuse ha hb
  | some data => exact hi.create ha hb kept haddr

/-! ## An answer -/

/-- The answer meets the context of its request. -/
theorem Inv.outcome_recorded (hi : Inv C s) {c : Closure} (hc : c.Live s.contexts) (response : ρ) :
    (s.outcome C c response).Recorded C s.requests := by
  obtain ⟨ctx, hctx, hfind, -, hreq⟩ := hi.find hc
  obtain ⟨b, hb, hfill⟩ := hi.filled ctx hctx
  refine ⟨b, ?_, ctx.data, hfill, ?_, ?_⟩
  · show s.requests[c.request]? = some b
    rw [← hreq, hb]
  · unfold outcome
    rw [hfind]
    exact congrArg some hreq
  · unfold outcome
    rw [hfind]
    exact congrArg (fun q => C.answer s.fallback q ctx.data response) hreq

/-- The entry of an answer is written, and its callback runs. -/
theorem Inv.record (hi : Inv C s) (ha : s.aborted = false) {c : Closure} (hc : c ∈ s.outstanding)
    (response : ρ) (stack : List (Option Closure)) (aborted : Bool)
    (hstack : aborted = true ∧ stack = s.stack ∨
      (∃ calls, (s.outcome C c response).calls = some calls) ∧ stack = some c :: s.stack) :
    Inv C { s with
      outstanding := s.outstanding.erase c
      handled := s.handled ++ [s.outcome C c response]
      stack, aborted } := by
  obtain ⟨hlive, hfresh⟩ := hi.held c hc
  have hrequest : (s.outcome C c response).request = c.request := rfl
  refine ⟨hi.addrs, hi.filled, hi.contexts, ?_, ?_, ?_, ?_, ?_, ?_, ?_, ?_⟩
  · intro c' hc'
    obtain ⟨hlive', hfresh'⟩ := hi.held c' (List.mem_of_mem_erase hc')
    refine ⟨hlive', ?_⟩
    rw [List.map_append, List.map_singleton, hrequest, List.mem_append, List.mem_singleton, not_or]
    refine ⟨hfresh', fun heq => ?_⟩
    obtain rfl : c' = c := List.inj_on_of_nodup_map hi.heldOnce (List.mem_of_mem_erase hc') hc heq
    exact (hi.heldOnce.of_map _).not_mem_erase hc'
  · exact hi.heldOnce.sublist (List.erase_sublist.map _)
  · intro d hd
    rcases hstack with ⟨-, rfl⟩ | ⟨-, rfl⟩
    · exact hi.frames d hd
    · rcases List.mem_cons.1 hd with rfl | hd
      · exact ⟨c, rfl, hlive⟩
      · exact hi.frames d hd
  · rw [List.map_append, List.map_singleton, hrequest]
    exact List.nodup_append_comm.1 (List.nodup_cons.2 ⟨hfresh, hi.handledOnce⟩)
  · intro h hh
    rcases List.mem_append.1 hh with hh | hh
    · exact hi.recorded h hh
    · exact List.mem_singleton.1 hh ▸ hi.outcome_recorded hlive response
  · intro q b hb hfill
    rw [List.map_append]
    exact List.mem_append_left _ (hi.refused q b hb hfill)
  · intro hna h hh
    rcases List.mem_append.1 hh with hh | hh
    · exact hi.called ha h hh
    · obtain rfl := List.mem_singleton.1 hh
      rcases hstack with ⟨h, -⟩ | ⟨h, -⟩
      · rw [h] at hna
        cases hna
      · exact h
  · intro hna
    rcases hstack with ⟨h, -⟩ | ⟨-, rfl⟩
    · rw [h] at hna
      cases hna
    · have hold := hi.removed ha
      unfold responded running at hold ⊢
      simp only [List.filter_append, List.map_append, List.filterMap_cons, id, List.map_cons]
      refine (hold.append_right _).trans ?_
      rw [List.append_assoc]
      have hcomm : (s.running.map Closure.request ++ [c.request]).Perm
          ([c.request] ++ s.running.map Closure.request) := List.perm_append_comm
      exact hcomm.append_left _

/-- The callback of the innermost answer is over. -/
theorem Inv.leave (hi : Inv C s) (ha : s.aborted = false) {c : Closure}
    {stack : List (Option Closure)} (hst : s.stack = some c :: stack) :
    Inv C (State.leave { s with stack } (some c)) := by
  have hmem : some c ∈ s.stack := hst ▸ List.mem_cons_self
  obtain ⟨c', hc', hlive⟩ := hi.frames _ hmem
  obtain rfl := Option.some.inj hc'
  have hrunning : s.running = c :: stack.filterMap id := by
    unfold running
    rw [hst]
    rfl
  have hperm := hi.removed ha
  rw [hrunning, List.map_cons] at hperm
  have honce : (s.finished ++ c.request :: (stack.filterMap id).map Closure.request).Nodup := by
    refine hperm.nodup_iff.1 (hi.handledOnce.sublist ?_)
    exact List.filter_sublist.map _
  have hc : c.request ∉ s.finished ++ (stack.filterMap id).map Closure.request := by
    have := List.nodup_middle.1 honce
    exact (List.nodup_cons.1 this).1
  have hhandled : c.request ∈ s.handled.map Handled.request := by
    have hq : c.request ∈ s.responded := hperm.mem_iff.2 (List.mem_append_right _ List.mem_cons_self)
    obtain ⟨x, hx, hreq⟩ := List.mem_map.1 hq
    exact List.mem_map.2 ⟨x, List.mem_of_mem_filter hx, hreq⟩
  refine ⟨hi.addrs.sublist (List.eraseP_sublist.map _),
    fun ctx hctx => hi.filled ctx (List.mem_of_mem_eraseP hctx), ?_, ?_, hi.heldOnce, ?_,
    hi.handledOnce, hi.recorded, hi.refused, fun _ => hi.called ha, ?_⟩
  · show (s.contexts.eraseP fun ctx => ctx.addr == c.addr).map Context.request =
      (List.range s.requests.length).filter fun q =>
        s.hasContext C q && decide (q ∉ s.finished ++ [c.request])
    have hcomp : (s.contexts.filter fun ctx => ctx.request != c.request).map Context.request =
        (s.contexts.map Context.request).filter fun q => q != c.request := by
      rw [List.filter_map]
      rfl
    rw [hi.erase hlive, hcomp, hi.contexts, List.filter_filter]
    apply List.filter_congr
    intro q _
    by_cases hq : q = c.request
    · simp [hq]
    · simp [hq]
  · intro c' hc'
    obtain ⟨hlive', hfresh⟩ := hi.held c' hc'
    refine ⟨hi.live_erase hlive hlive' fun heq => ?_, hfresh⟩
    rw [heq] at hfresh
    exact hfresh hhandled
  · intro d hd
    obtain ⟨c', rfl, hlive'⟩ := hi.frames d (hst ▸ List.mem_cons_of_mem _ hd)
    refine ⟨c', rfl, hi.live_erase hlive hlive' fun heq => hc (List.mem_append_right _ ?_)⟩
    rw [← heq]
    exact List.mem_map_of_mem (List.mem_filterMap.2 ⟨_, hd, rfl⟩)
  · intro _
    show s.responded.Perm (s.finished ++ [c.request] ++ (stack.filterMap id).map Closure.request)
    rw [List.append_assoc]
    exact hperm

theorem Inv.respond (hi : Inv C s) (ha : s.aborted = false) {c : Closure} (hc : c ∈ s.outstanding)
    (response : ρ) : Inv C (s.respond C c response) := by
  obtain ⟨ctx, -, hfind, -⟩ := hi.find (hi.held c hc).1
  unfold State.respond
  simp only [hfind, Option.map_some]
  split
  · exact hi.record ha hc response _ true (.inl ⟨rfl, rfl⟩)
  · next hcalls => exact (hi.record ha hc response _ s.aborted (.inr ⟨⟨_, hcalls⟩, rfl⟩)).leave ha rfl
  · next hcalls => exact hi.record ha hc response _ s.aborted (.inr ⟨⟨_, hcalls⟩, rfl⟩)

theorem Inv.returns (hi : Inv C s) (ha : s.aborted = false) {d : Option Closure}
    {stack : List (Option Closure)} (hst : s.stack = d :: stack) :
    Inv C (State.leave { s with stack } d) := by
  obtain ⟨c, rfl, -⟩ := hi.frames d (hst ▸ List.mem_cons_self)
  exact hi.leave ha hst

/-! ## Runs -/

/-- What one step can do. -/
theorem step_cases {s' : State β γ ρ κ} {a : Action β ρ} (h : s.step C a = some s') :
    s.aborted = false ∧
      ((∃ set, a = .setFallback set ∧ s' = { s with fallback := set }) ∨
      (∃ b addr kept, a = .request b addr kept ∧ addr ∉ s.contexts.map Context.addr ∧
        s' = s.request C b addr kept) ∨
      (∃ c response, a = .respond c response ∧ c ∈ s.outstanding ∧ s' = s.respond C c response) ∨
      ∃ d stack, a = .returns ∧ s.stack = d :: stack ∧ s' = State.leave { s with stack } d) := by
  unfold State.step at h
  split at h
  · cases h
  · next haborted =>
    refine ⟨Bool.eq_false_iff.2 haborted, ?_⟩
    cases a with
    | setFallback set => exact .inl ⟨set, rfl, (Option.some.inj h).symm⟩
    | request b addr kept =>
      simp only at h
      split at h
      · cases h
      · next haddr => exact .inr (.inl ⟨_, _, _, rfl, haddr, (Option.some.inj h).symm⟩)
    | respond c response =>
      simp only at h
      split at h
      · next hc => exact .inr (.inr (.inl ⟨_, _, rfl, hc, (Option.some.inj h).symm⟩))
      · cases h
    | returns =>
      simp only at h
      split at h
      · cases h
      · next d stack hst => exact .inr (.inr (.inr ⟨d, stack, rfl, hst, (Option.some.inj h).symm⟩))

/-- One step, of whatever kind. -/
theorem Inv.step {s' : State β γ ρ κ} {a : Action β ρ} (hi : Inv C s) (h : s.step C a = some s') :
    Inv C s' := by
  obtain ⟨ha, ⟨set, rfl, rfl⟩ | ⟨b, addr, kept, rfl, haddr, rfl⟩ | ⟨c, response, rfl, hc, rfl⟩ |
    ⟨d, stack, rfl, hst, rfl⟩⟩ := step_cases h
  · exact { hi with }
  · exact hi.request ha b kept haddr
  · exact hi.respond ha hc response
  · exact hi.returns ha hst

theorem Reach.inv {ok : State β γ ρ κ → Action β ρ → Prop} (h : Reach (step C) ok {} s) : Inv C s :=
  h.invariant (inv_init C) fun _ _ _ hi _ hs => hi.step hs

/-- What a step writes down. -/
theorem handled_leave (s : State β γ ρ κ) (d : Option Closure) :
    (s.leave d).handled = s.handled ∧ (s.leave d).requests = s.requests := by
  cases d with
  | none => exact ⟨rfl, rfl⟩
  | some c => exact ⟨rfl, rfl⟩

theorem handled_respond (C : Client β γ ρ κ) (s : State β γ ρ κ) (c : Closure) (response : ρ) :
    (s.respond C c response).handled = s.handled ++ [s.outcome C c response] ∧
      (s.respond C c response).requests = s.requests := by
  unfold State.respond
  dsimp only
  split
  · exact ⟨rfl, rfl⟩
  · exact handled_leave _ _
  · exact ⟨rfl, rfl⟩

/-- Each request has at most one entry. -/
theorem Inv.handledFor_le (hi : Inv C s) (q : Nat) : (s.handledFor q).length ≤ 1 := by
  unfold handledFor
  rw [← List.countP_eq_length_filter]
  have := List.nodup_iff_count_le_one.1 hi.handledOnce q
  rwa [List.count, List.countP_map] at this

/-! ## Contexts that nobody will ever give back -/

/-- Every context is with the carrier, or its callback is running. -/
def Covered (s : State β γ ρ κ) : Prop :=
  ∀ ctx ∈ s.contexts, (⟨ctx.addr, ctx.request⟩ : Closure) ∈ s.outstanding ∨
    (⟨ctx.addr, ctx.request⟩ : Closure) ∈ s.running

theorem covered_leave (hi : Inv C s) (hc : s.Covered) {c : Closure} {stack : List (Option Closure)}
    (hst : s.stack = some c :: stack) : (State.leave { s with stack } (some c)).Covered := by
  obtain ⟨c', hc', hlive⟩ := hi.frames _ (hst ▸ List.mem_cons_self)
  obtain rfl := Option.some.inj hc'
  intro ctx hctx
  have herase : ctx ∈ s.contexts.filter fun ctx => ctx.request != c.request := by
    rw [← hi.erase hlive]
    exact hctx
  obtain ⟨hmem, hne⟩ := List.mem_filter.1 herase
  rcases hc ctx hmem with h | h
  · exact .inl h
  · refine .inr ?_
    unfold running at h
    rw [hst] at h
    rcases List.mem_cons.1 h with rfl | h
    · exact absurd rfl (bne_iff_ne.1 hne)
    · exact h

theorem covered_respond (hi : Inv C s) (hc : s.Covered) (ha : s.aborted = false) {c : Closure}
    (hmem : c ∈ s.outstanding) (response : ρ)
    (hcalls : ∃ calls, (s.outcome C c response).calls = some calls) :
    (s.respond C c response).Covered := by
  obtain ⟨ctx, -, hfind, -⟩ := hi.find (hi.held c hmem).1
  have hpush : Covered { s with
      outstanding := s.outstanding.erase c
      handled := s.handled ++ [s.outcome C c response]
      stack := some c :: s.stack } := by
    intro ctx hctx
    rcases hc ctx hctx with h | h
    · by_cases heq : (⟨ctx.addr, ctx.request⟩ : Closure) = c
      · exact .inr (heq ▸ List.mem_cons_self)
      · exact .inl ((List.mem_erase_of_ne heq).2 h)
    · exact .inr (List.mem_cons_of_mem _ h)
  have hrecord := hi.record ha hmem response (some c :: s.stack) s.aborted (.inr ⟨hcalls, rfl⟩)
  obtain ⟨calls, hcalls⟩ := hcalls
  unfold State.respond
  simp only [hfind, Option.map_some, hcalls]
  cases calls with
  | nil => exact covered_leave hrecord hpush rfl
  | cons call calls => exact hpush

/-- When no context is left, all of them have been deleted. -/
theorem Inv.finished_of_nil (hi : Inv C s) (hnone : s.contexts = []) {q : Nat}
    (hq : s.hasContext C q = true) : q ∈ s.finished := by
  have hlt : q < s.requests.length := by
    unfold hasContext at hq
    cases hb : s.requests[q]? with
    | none =>
      rw [hb] at hq
      cases hq
    | some b => exact (List.getElem?_eq_some_iff.1 hb).1
  have hcontexts := hi.contexts
  rw [hnone] at hcontexts
  by_contra hf
  refine List.filter_eq_nil_iff.1 hcontexts.symm q (List.mem_range.2 hlt) ?_
  rw [hq, Bool.true_and]
  exact decide_eq_true hf

/-- What an answer changes besides the contexts. -/
theorem respond_cases (hi : Inv C s) {c : Closure} (hmem : c ∈ s.outstanding) (response : ρ) :
    (s.respond C c response).outstanding = s.outstanding.erase c ∧
      ((s.outcome C c response).calls = none ∧ (s.respond C c response).aborted = true ∨
      (s.outcome C c response).calls = some [] ∧ (s.respond C c response).stack = s.stack ∧
        (s.respond C c response).aborted = s.aborted ∨
      ∃ call calls, (s.outcome C c response).calls = some (call :: calls) ∧
        (s.respond C c response).stack = some c :: s.stack ∧
        (s.respond C c response).aborted = s.aborted) := by
  obtain ⟨ctx, -, hfind, -⟩ := hi.find (hi.held c hmem).1
  unfold State.respond
  simp only [hfind, Option.map_some]
  rcases hcalls : (s.outcome C c response).calls with _ | ⟨_ | ⟨call, calls⟩⟩
  · exact ⟨rfl, .inl ⟨rfl, rfl⟩⟩
  · exact ⟨rfl, .inr (.inl ⟨rfl, rfl, rfl⟩)⟩
  · exact ⟨rfl, .inr (.inr ⟨call, calls, rfl, rfl, rfl⟩)⟩

/-- An entry is the only one of its request. -/
theorem Inv.handledFor_eq (hi : Inv C s) {h : Handled ρ κ} (hh : h ∈ s.handled) :
    s.handledFor h.request = [h] := by
  have hin : h ∈ s.handledFor h.request := List.mem_filter.2 ⟨hh, beq_self_eq_true _⟩
  have hle := hi.handledFor_le h.request
  rcases hl : s.handledFor h.request with _ | ⟨h', _ | ⟨h'', l⟩⟩
  · rw [hl] at hin
    cases hin
  · rw [hl] at hin
    rw [List.mem_singleton.1 hin]
  · rw [hl] at hle
    simp at hle

/-- The entry of a request whose context has been deleted. -/
theorem Inv.handled_finished (hi : Inv C s) (ha : s.aborted = false) {q : Nat} (hq : q ∈ s.finished) :
    ∃ h response calls, s.handledFor q = [h] ∧ h.request = q ∧ h.response = some response ∧
      h.calls = some calls ∧ h.Recorded C s.requests := by
  have hmem : q ∈ s.responded := (hi.removed ha).mem_iff.2 (List.mem_append_left _ hq)
  obtain ⟨h, hh, rfl⟩ := List.mem_map.1 hmem
  obtain ⟨hhandled, hsome⟩ := List.mem_filter.1 hh
  obtain ⟨response, hresponse⟩ := Option.isSome_iff_exists.1 hsome
  obtain ⟨calls, hcalls⟩ := hi.called ha h hhandled
  exact ⟨h, response, calls, hi.handledFor_eq hhandled, rfl, hresponse, hcalls,
    hi.recorded h hhandled⟩

end State

end Dispatch
