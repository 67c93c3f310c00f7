import NakamaCpp.Lib.Dispatch

/-!
# Clients that are images of others

A morphism of clients turns the contexts, answers and calls of one client into those of another,
so that what the second makes of an answer is what the first makes of it, turned.  That is asked
for the answers that fit their request.  A run of the first client with such answers is, turned
action by action, a run of the second one.

    exec (step C) ok {} as = some s  →
      exec (step C') anyStep {} (as.map m.action) = some (m.state s)            (Morphism.exec)
-/

namespace Dispatch

open Transition

variable {β γ ρ κ γ' ρ' κ' : Type}

/-- The answer of an action fits the request that it is for. -/
def State.Fitting (Fits : β → ρ → Prop) (s : State β γ ρ κ) : Action β ρ → Prop
  | .respond closure response => ∀ b, s.requests[closure.request]? = some b → Fits b response
  | _ => True

instance (Fits : β → ρ → Prop) [∀ b r, Decidable (Fits b r)] (s : State β γ ρ κ) :
    ∀ a : Action β ρ, Decidable (s.Fitting Fits a)
  | .respond closure response =>
    inferInstanceAs (Decidable (∀ b ∈ s.requests[closure.request]?, Fits b response))
  | .setFallback _ | .request .. | .returns => inferInstanceAs (Decidable True)

structure Morphism (C : Client β γ ρ κ) (C' : Client β γ' ρ' κ') (Fits : β → ρ → Prop) where
  data : γ → γ'
  response : ρ → ρ'
  call : κ → κ'
  fill : ∀ b, C'.fill b = (C.fill b).map data
  refuse : ∀ q b, C'.refuse q b = (C.refuse q b).map call
  answer : ∀ fallback q b d r, C.fill b = some d → Fits b r →
    C'.answer fallback q (data d) (response r) = (C.answer fallback q d r).map (List.map call)

namespace Morphism

variable {C : Client β γ ρ κ} {C' : Client β γ' ρ' κ'} {Fits : β → ρ → Prop}

section
variable (m : Morphism C C' Fits)

/-! ## Images -/

def context (ctx : Context γ) : Context γ' := ⟨ctx.addr, ctx.request, m.data ctx.data⟩

def handled (h : Handled ρ κ) : Handled ρ' κ' where
  request := h.request
  response := h.response.map m.response
  fallback := h.fallback
  read := h.read
  calls := h.calls.map (List.map m.call)

def state (s : State β γ ρ κ) : State β γ' ρ' κ' where
  fallback := s.fallback
  contexts := s.contexts.map m.context
  outstanding := s.outstanding
  stack := s.stack
  aborted := s.aborted
  requests := s.requests
  handled := s.handled.map m.handled
  finished := s.finished

def action : Action β ρ → Action β ρ'
  | .setFallback set => .setFallback set
  | .request b addr kept => .request b addr kept
  | .respond closure response => .respond closure (m.response response)
  | .returns => .returns

end

variable {m : Morphism C C' Fits} {s s' : State β γ ρ κ}

/-! ## Steps -/

theorem map_addr : (m.state s).contexts.map Context.addr = s.contexts.map Context.addr := by
  rw [state, List.map_map]
  rfl

theorem find (addr : Nat) : (m.state s).find addr = (s.find addr).map m.context := by
  rw [State.find, state, List.find?_map]
  rfl

theorem leave (d : Option Closure) : (m.state s).leave d = m.state (s.leave d) := by
  cases d with
  | none => rfl
  | some closure =>
    have herase : ((s.contexts.map m.context).eraseP fun ctx => ctx.addr == closure.addr) =
        (s.contexts.eraseP fun ctx => ctx.addr == closure.addr).map m.context := List.eraseP_map ..
    simp only [State.leave, state, herase]

theorem request (b : β) (addr : Nat) (kept : Bool) :
    (m.state s).request C' b addr kept = m.state (s.request C b addr kept) := by
  unfold State.request
  rw [m.fill]
  cases C.fill b with
  | none => simp only [Option.map_none, state, List.map_append, List.map_singleton, handled,
      Option.map_some, m.refuse]
  | some data => simp only [Option.map_some, state, List.map_append, List.map_singleton, context]

/-- The entry for an answer that fits. -/
theorem outcome (hi : State.Inv C s) {closure : Closure} {response : ρ}
    (hc : closure ∈ s.outstanding) (hfit : State.Fitting Fits s (.respond closure response)) :
    (m.state s).outcome C' closure (m.response response) =
      m.handled (s.outcome C closure response) := by
  obtain ⟨ctx, hctx, hfind, -, hrequest⟩ := hi.find (hi.held closure hc).1
  obtain ⟨b, hb, hfill⟩ := hi.filled ctx hctx
  rw [hrequest] at hb
  have hanswer := m.answer s.fallback ctx.request b ctx.data response hfill (hfit b hb)
  unfold State.outcome
  rw [find, hfind]
  simp only [Option.map_some, handled, ← hanswer]
  rfl

theorem respond (hi : State.Inv C s) {closure : Closure} {response : ρ}
    (hc : closure ∈ s.outstanding) (hfit : State.Fitting Fits s (.respond closure response)) :
    (m.state s).respond C' closure (m.response response) = m.state (s.respond C closure response) := by
  have hfound : ((m.state s).find closure.addr).map (fun _ => closure) =
      (s.find closure.addr).map fun _ => closure := by
    rw [find, Option.map_map]
    rfl
  have hlist : ((s.handled ++ [s.outcome C closure response]).map m.handled) =
      s.handled.map m.handled ++ [m.handled (s.outcome C closure response)] := by
    rw [List.map_append, List.map_singleton]
  have hleave (d : Option Closure) := leave (m := m) (d := d)
    (s := { s with
      outstanding := s.outstanding.erase closure
      handled := s.handled ++ [s.outcome C closure response] })
  unfold State.respond
  simp only [outcome hi hc hfit, hfound]
  cases hcalls : (s.outcome C closure response).calls with
  | none =>
    simp only [handled, hcalls, Option.map_none]
    simp only [state, hlist, handled, hcalls, Option.map_none]
  | some calls =>
    cases calls with
    | nil =>
      simp only [handled, hcalls, Option.map_some, List.map_nil]
      rw [← hleave]
      simp only [state, hlist, handled, hcalls, Option.map_some, List.map_nil]
    | cons call calls =>
      simp only [handled, hcalls, Option.map_some, List.map_cons]
      simp only [state, hlist, handled, hcalls, Option.map_some, List.map_cons]

/-- A step is turned into a step. -/
theorem step (hi : State.Inv C s) {a : Action β ρ} (hfit : s.Fitting Fits a) :
    (m.state s).step C' (m.action a) = (s.step C a).map m.state := by
  have haborted : (m.state s).aborted = s.aborted := rfl
  unfold State.step
  rw [haborted]
  split
  · rfl
  · cases a with
    | setFallback set => rfl
    | request b addr kept =>
      simp only [action, map_addr, request]
      split <;> rfl
    | respond closure response =>
      have hmem : closure ∈ (m.state s).outstanding ↔ closure ∈ s.outstanding := Iff.rfl
      simp only [action, hmem]
      split
      · next hc =>
        rw [respond hi hc hfit]
        rfl
      · rfl
    | returns =>
      simp only [action]
      cases hstack : s.stack with
      | nil => simp only [state, hstack, Option.map_none]
      | cons deleted stack =>
        have hstack' : (m.state s).stack = deleted :: stack := hstack
        rw [hstack', Option.map_some, ← leave]
        rfl

/-- **Runs.** -/
theorem exec {ok : State β γ ρ κ → Action β ρ → Prop} [∀ s a, Decidable (ok s a)]
    (hok : ∀ s a, ok s a → s.Fitting Fits a) {as : List (Action β ρ)} (hi : State.Inv C s)
    (h : Transition.exec (State.step C) ok s as = some s') :
    Transition.exec (State.step C') anyStep (m.state s) (as.map m.action) = some (m.state s') := by
  induction as generalizing s with
  | nil => exact congrArg (Option.map m.state) h
  | cons a as ih =>
    rw [Transition.exec] at h
    split at h
    · next ha =>
      split at h
      · next s₁ hs =>
        rw [List.map_cons, exec_anyStep_cons, step hi (hok s a ha), hs]
        exact ih (hi.step hs) h
      · cases h
    · cases h

end Morphism

end Dispatch
