import NakamaCpp.Lib.Dispatch

/-!
# A client under a layer

Two clients that are given the same answers.  Their contexts are at the same addresses, and the same
answers are under way and running (`Alike`), though requests, contexts and calls differ.  The client
under a layer may call where the other one has nobody to call; if the layer then calls nobody
either, the call returns at once and the two are alike again (`Alike.hushed`).
-/

namespace Dispatch

variable {β γ ρ κ β' γ' κ' : Type}

/-- The pointer to a context. -/
def Context.closure (ctx : Context γ) : Closure := ⟨ctx.addr, ctx.request⟩

section
variable {C : Client β γ ρ κ} {s : State β γ ρ κ}

theorem State.step_aborted (h : s.aborted = true) (a : Action β ρ) : s.step C a = none := by
  unfold State.step
  rw [if_pos h]

theorem State.step_setFallback (h : s.aborted = false) (set : Bool) :
    s.step C (.setFallback set) = some { s with fallback := set } := by
  rw [State.step, if_neg (by simp [h])]

theorem State.step_request (h : s.aborted = false) (b : β) (addr : Nat) (kept : Bool) :
    s.step C (.request b addr kept) =
      if addr ∈ s.contexts.map Context.addr then none else some (s.request C b addr kept) := by
  rw [State.step, if_neg (by simp [h])]

theorem State.request_eq {b : β} {data : γ} (h : C.fill b = some data) (addr : Nat) (kept : Bool) :
    s.request C b addr kept =
      { s with
        requests := s.requests ++ [b]
        contexts := s.contexts ++ [⟨addr, s.requests.length, data⟩]
        outstanding := s.outstanding ++ if kept then [⟨addr, s.requests.length⟩] else [] } := by
  simp only [State.request, h]

theorem State.step_respond (h : s.aborted = false) (c : Closure) (response : ρ) :
    s.step C (.respond c response) =
      if c ∈ s.outstanding then some (s.respond C c response) else none := by
  rw [State.step, if_neg (by simp [h])]

theorem State.step_returns_nil (h : s.aborted = false) (hstack : s.stack = []) :
    s.step C .returns = none := by
  rw [State.step, if_neg (by simp [h]), hstack]

theorem State.step_returns_cons (h : s.aborted = false) {d : Option Closure}
    {stack : List (Option Closure)} (hstack : s.stack = d :: stack) :
    s.step C .returns = some (State.leave { s with stack } d) := by
  rw [State.step, if_neg (by simp [h]), hstack]

end

structure Alike (s : State β γ ρ κ) (t : State β' γ' ρ κ') : Prop where
  contexts : t.contexts.map Context.closure = s.contexts.map Context.closure
  outstanding : t.outstanding = s.outstanding
  stack : t.stack = s.stack
  aborted : t.aborted = s.aborted
  requests : t.requests.length = s.requests.length

namespace Alike

variable {C : Client β γ ρ κ} {C' : Client β' γ' ρ κ'} {s : State β γ ρ κ} {t : State β' γ' ρ κ'}

theorem addrs (h : Alike s t) : t.contexts.map Context.addr = s.contexts.map Context.addr := by
  have hclosures := congrArg (List.map Closure.addr) h.contexts
  rw [List.map_map, List.map_map] at hclosures
  exact hclosures

/-- The fallback is nothing that they have in common. -/
theorem setFallback (h : Alike s t) (set set' : Bool) :
    Alike { s with fallback := set } { t with fallback := set' } := ⟨h.1, h.2, h.3, h.4, h.5⟩

theorem leave (h : Alike s t) (d : Option Closure) : Alike (s.leave d) (t.leave d) := by
  cases d with
  | none => exact h
  | some c =>
    refine ⟨?_, h.outstanding, h.stack, h.aborted, h.requests⟩
    have herase : ∀ {γ : Type} (l : List (Context γ)),
        (l.eraseP fun ctx => ctx.addr == c.addr).map Context.closure =
          (l.map Context.closure).eraseP fun c' => c'.addr == c.addr := by
      intro γ l
      rw [List.eraseP_map]
      rfl
    show (t.contexts.eraseP _).map _ = (s.contexts.eraseP _).map _
    rw [herase, herase, h.contexts]

theorem request (h : Alike s t) {b : β} {b' : β'} (hb : (C.fill b).isSome = true)
    (hb' : (C'.fill b').isSome = true) (addr : Nat) (kept : Bool) :
    Alike (s.request C b addr kept) (t.request C' b' addr kept) := by
  obtain ⟨d, hd⟩ := Option.isSome_iff_exists.1 hb
  obtain ⟨d', hd'⟩ := Option.isSome_iff_exists.1 hb'
  rw [State.request, State.request, hd, hd']
  refine ⟨?_, ?_, h.stack, h.aborted, ?_⟩
  · show (t.contexts ++ [_]).map _ = (s.contexts ++ [_]).map _
    rw [List.map_append, List.map_append, h.contexts, List.map_singleton, List.map_singleton,
      Context.closure, Context.closure, h.requests]
  · show t.outstanding ++ _ = s.outstanding ++ _
    rw [h.outstanding, h.requests]
  · show (t.requests ++ [b']).length = (s.requests ++ [b]).length
    simp [h.requests]

end Alike

/-! ## Answers -/

/-- An answer has been taken and is written down. -/
def State.noted (C : Client β γ ρ κ) (s : State β γ ρ κ) (c : Closure) (response : ρ) :
    State β γ ρ κ :=
  { s with
    outstanding := s.outstanding.erase c
    handled := s.handled ++ [s.outcome C c response] }

section
variable {C : Client β γ ρ κ} {C' : Client β' γ' ρ κ'} {s : State β γ ρ κ} {t : State β' γ' ρ κ'}
  {c : Closure} {response : ρ}

theorem State.Inv.found (hi : State.Inv C s) (hc : c ∈ s.outstanding) :
    (s.find c.addr).map (fun _ => c) = some c := by
  obtain ⟨ctx, -, hfind, -⟩ := hi.find (hi.held c hc).1
  rw [hfind]
  rfl

/-- The calls are those for the request of the pointer. -/
theorem State.Inv.outcome_calls (hi : State.Inv C s) (hc : c ∈ s.outstanding) (response : ρ) :
    ∃ b d, s.requests[c.request]? = some b ∧ C.fill b = some d ∧
      (s.outcome C c response).calls = C.answer s.fallback c.request d response := by
  obtain ⟨ctx, hctx, hfind, -, hrequest⟩ := hi.find (hi.held c hc).1
  obtain ⟨b, hb, hfill⟩ := hi.filled ctx hctx
  refine ⟨b, ctx.data, hrequest ▸ hb, hfill, ?_⟩
  simp only [State.outcome, hfind, hrequest]

theorem State.respond_died (hcalls : (s.outcome C c response).calls = none) :
    s.respond C c response = { s.noted C c response with aborted := true } := by
  simp only [State.respond, hcalls, State.noted]

theorem State.Inv.respond_nil (hi : State.Inv C s) (hc : c ∈ s.outstanding)
    (hcalls : (s.outcome C c response).calls = some []) :
    s.respond C c response = (s.noted C c response).leave (some c) := by
  simp only [State.respond, hcalls, State.noted, hi.found hc]

theorem State.Inv.respond_cons (hi : State.Inv C s) (hc : c ∈ s.outstanding) {call : κ}
    {calls : List κ} (hcalls : (s.outcome C c response).calls = some (call :: calls)) :
    s.respond C c response = { s.noted C c response with stack := some c :: s.stack } := by
  simp only [State.respond, hcalls, State.noted, hi.found hc]

/-- What an answer leaves as it is, and the pointer that is not under way any more. -/
structure Taken (s s' : State β γ ρ κ) (c : Closure) : Prop where
  requests : s'.requests = s.requests
  outstanding : s'.outstanding = s.outstanding.erase c
  fallback : s'.fallback = s.fallback

theorem taken_noted (C : Client β γ ρ κ) (s : State β γ ρ κ) (c : Closure) (response : ρ) :
    Taken s ((s.noted C c response).leave (some c)) c := ⟨rfl, rfl, rfl⟩

theorem taken_respond (C : Client β γ ρ κ) (s : State β γ ρ κ) (c : Closure) (response : ρ) :
    Taken s (s.respond C c response) c := by
  unfold State.respond
  dsimp only
  split
  · exact ⟨rfl, rfl, rfl⟩
  · cases s.find c.addr <;> exact ⟨rfl, rfl, rfl⟩
  · exact ⟨rfl, rfl, rfl⟩

namespace Alike

theorem noted (h : Alike s t) (c : Closure) (response : ρ) :
    Alike (s.noted C c response) (t.noted C' c response) := by
  refine ⟨h.contexts, ?_, h.stack, h.aborted, h.requests⟩
  show t.outstanding.erase c = s.outstanding.erase c
  rw [h.outstanding]

/-- Both die of the answer. -/
theorem dies (h : Alike s t) (hs : (s.outcome C c response).calls = none)
    (ht : (t.outcome C' c response).calls = none) :
    Alike (s.respond C c response) (t.respond C' c response) := by
  rw [State.respond_died hs, State.respond_died ht]
  have hn : Alike (s.noted C c response) (t.noted C' c response) := h.noted c response
  exact ⟨hn.contexts, hn.outstanding, hn.stack, rfl, hn.requests⟩

/-- Neither has anybody to call. -/
theorem ignored (h : Alike s t) (hi : State.Inv C s) (hi' : State.Inv C' t)
    (hc : c ∈ s.outstanding) (hs : (s.outcome C c response).calls = some [])
    (ht : (t.outcome C' c response).calls = some []) :
    Alike (s.respond C c response) (t.respond C' c response) := by
  rw [hi.respond_nil hc hs, hi'.respond_nil (h.outstanding ▸ hc) ht]
  exact (h.noted c response).leave _

/-- Both call, and the callbacks run. -/
theorem called (h : Alike s t) (hi : State.Inv C s) (hi' : State.Inv C' t) (hc : c ∈ s.outstanding)
    {call : κ} {calls : List κ} {call' : κ'} {calls' : List κ'}
    (hs : (s.outcome C c response).calls = some (call :: calls))
    (ht : (t.outcome C' c response).calls = some (call' :: calls')) :
    Alike (s.respond C c response) (t.respond C' c response) := by
  rw [hi.respond_cons hc hs, hi'.respond_cons (h.outstanding ▸ hc) ht]
  have hn : Alike (s.noted C c response) (t.noted C' c response) := h.noted c response
  refine ⟨hn.contexts, hn.outstanding, ?_, hn.aborted, hn.requests⟩
  show some c :: t.stack = some c :: s.stack
  rw [h.stack]

/-- The second one calls a layer that has nobody to call. -/
theorem hushed (h : Alike s t) (hi : State.Inv C s) (hi' : State.Inv C' t) (hc : c ∈ s.outstanding)
    (ha : s.aborted = false) {call' : κ'} {calls' : List κ'}
    (hs : (s.outcome C c response).calls = some [])
    (ht : (t.outcome C' c response).calls = some (call' :: calls')) :
    (t.respond C' c response).step C' .returns = some ((t.noted C' c response).leave (some c)) ∧
      Alike (s.respond C c response) ((t.noted C' c response).leave (some c)) := by
  rw [hi.respond_nil hc hs, hi'.respond_cons (h.outstanding ▸ hc) ht]
  have ha' : t.aborted = false := h.aborted.trans ha
  have hstep := State.step_returns_cons (C := C')
    (s := { t.noted C' c response with stack := some c :: t.stack }) ha' rfl
  exact ⟨hstep, (h.noted c response).leave _⟩

theorem returns (h : Alike s t) (d : Option Closure) (stack : List (Option Closure)) :
    Alike (State.leave { s with stack } d) (State.leave { t with stack } d) :=
  (show Alike { s with stack } { t with stack } from ⟨h.1, h.2, rfl, h.4, h.5⟩).leave d

end Alike

end

end Dispatch
