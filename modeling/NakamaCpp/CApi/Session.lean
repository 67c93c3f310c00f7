import NakamaCpp.Lib.CInterop
import NakamaCpp.Lib.Transition
import NakamaCpp.Rest.ClientOp
import NakamaCpp.Rest.DefaultSession

/-!
# Sessions behind the C interface

A C session is the address of a C++ session that `g_sessions` of
src/nakama-c/NSessionC.cpp keeps alive.  `NSessionWrapper` of
include/nakama-cpp-c-wrapper/Impl/NSessionWrapperImpl.h holds one and destroys it with itself.

    Reach step anyStep {} s  →  a wrapper that is alive has its session found   (getSession_wrapper)

`NSession_getVariable` keeps what it returns in a static variable.

    a sequence of calls is answered as each would be as the first
      ↔  all of them look for the value that the first has found          (getVariable_history_iff)
-/

namespace NakamaCpp.CApi

open CInterop Rest Transition

/-- `::NSession`, an address. -/
abbrev CSession := Nat

/-- `g_sessions`, each session with its address. -/
abbrev Sessions := List (CSession × NSession)

def saveSession (sessions : Sessions) (cSession : CSession) (session : NSession) : Sessions :=
  sessions ++ [(cSession, session)]

def getSession (sessions : Sessions) (cSession : CSession) : Option NSession :=
  (sessions.find? fun e => e.1 == cSession).map Prod.snd

def destroySession (sessions : Sessions) (cSession : CSession) : Sessions :=
  sessions.eraseP fun e => e.1 == cSession

structure SessionState where
  sessions : Sessions := []
  /-- the wrappers that are alive, each with what it has been made for -/
  wrappers : List (CSession × NSession) := []

inductive SessionAction
  /-- an authentication has succeeded, or `restoreSession`; nobody wraps the session
  if there was no success callback -/
  | save (cSession : CSession) (session : NSession) (wrapped : Bool)
  /-- `~NSessionWrapper` -/
  | destroyWrapper (cSession : CSession)

namespace SessionState

/-- A new session is at an address that no other has. -/
def step (s : SessionState) : SessionAction → Option SessionState
  | .save cSession session wrapped =>
    if cSession ∈ s.sessions.map Prod.fst then none
    else
      some
        { sessions := saveSession s.sessions cSession session
          wrappers := if wrapped then s.wrappers ++ [(cSession, session)] else s.wrappers }
  | .destroyWrapper cSession =>
    if cSession ∈ s.wrappers.map Prod.fst then
      some
        { sessions := destroySession s.sessions cSession
          wrappers := s.wrappers.eraseP fun e => e.1 == cSession }
    else none

/-- Every wrapper holds a session of its own. -/
structure Held (s : SessionState) : Prop where
  addresses : (s.sessions.map Prod.fst).Nodup
  wrappers : s.wrappers.Sublist s.sessions

theorem getSession_of_mem {sessions : Sessions} (h : (sessions.map Prod.fst).Nodup)
    {cSession : CSession} {session : NSession} (hmem : (cSession, session) ∈ sessions) :
    getSession sessions cSession = some session := by
  unfold getSession
  induction sessions with
  | nil => cases hmem
  | cons e sessions ih =>
    rw [List.map_cons, List.nodup_cons] at h
    rw [List.find?_cons]
    rcases List.mem_cons.1 hmem with rfl | hmem
    · rw [beq_self_eq_true]
      rfl
    · have hne : (e.1 == cSession) = false := by
        rw [beq_eq_false_iff_ne]
        intro he
        exact h.1 (he ▸ List.mem_map_of_mem (f := Prod.fst) hmem)
      rw [hne]
      exact ih h.2 hmem

theorem Held.step {s s' : SessionState} {a : SessionAction} (hi : Held s) (h : s.step a = some s') :
    Held s' := by
  cases a with
  | save cSession session wrapped =>
    rw [SessionState.step] at h
    split at h
    · cases h
    · next hfresh =>
      cases h
      refine ⟨?_, ?_⟩
      · show ((s.sessions ++ [(cSession, session)]).map Prod.fst).Nodup
        rw [List.map_append, List.nodup_append]
        refine ⟨hi.addresses, List.nodup_singleton _, fun a ha b hb hab => ?_⟩
        obtain rfl := List.mem_singleton.1 hb
        exact hfresh (hab ▸ ha)
      · cases wrapped with
        | true => exact hi.wrappers.append (List.Sublist.refl _)
        | false => exact hi.wrappers.trans (List.sublist_append_left _ _)
  | destroyWrapper cSession =>
    rw [SessionState.step] at h
    split at h
    · cases h
      refine ⟨?_, hi.wrappers.eraseP⟩
      exact (List.eraseP_sublist.map Prod.fst).nodup hi.addresses
    · cases h

/-- **Sessions.**  In every run, a wrapper that is alive has its session found. -/
theorem getSession_wrapper {s : SessionState} (h : Reach step anyStep {} s) {cSession : CSession}
    {session : NSession} (hmem : (cSession, session) ∈ s.wrappers) :
    getSession s.sessions cSession = some session := by
  have h0 : Held {} := by
    refine ⟨?_, List.Sublist.refl _⟩
    exact List.nodup_nil
  have hi := h.invariant h0 fun _ _ _ hi _ hs => hi.step hs
  exact getSession_of_mem hi.addresses (hi.wrappers.subset hmem)

end SessionState

/-! ## The variables of a session -/

/-- `getVariable` of a `DefaultSession`. -/
def DefaultSession.getVariable (session : DefaultSession) (name : String) : String :=
  session.vars[name]?.getD ""

/-- A call of `NSession_getVariable`. -/
structure VariableCall where
  session : DefaultSession
  name : CStr

namespace VariableCall

/-- What NSession.h says: the value, or null if there is none. -/
def documented (call : VariableCall) : Option CStr :=
  call.session.vars[call.name.text]?.map CStr.ofString

/-- The value, or an empty string if there is none. -/
def expected (call : VariableCall) : CStr := call.documented.getD (CStr.ofString "")

/-- `NSession_getVariable`, with `valueCache` if it has been initialized: the answer and
`valueCache` afterwards. -/
def run (valueCache : Option String) (call : VariableCall) : CStr × Option String :=
  let value := valueCache.getD (DefaultSession.getVariable call.session call.name.text)
  (CStr.ofString value, some value)

/-- `valueCache` after some calls in a process that starts with them. -/
def cacheAfter (history : List VariableCall) : Option String :=
  history.foldl (fun valueCache call => (call.run valueCache).2) none

/-- The answer to a call after others. -/
def answerAfter (history : List VariableCall) (call : VariableCall) : CStr :=
  (call.run (cacheAfter history)).1

/-- Each call of the sequence is answered with its value, as the first call of a process is. -/
def HistoryFree (calls : List VariableCall) : Prop :=
  ∀ history call, history ++ [call] <+: calls →
    call.answerAfter history = call.answerAfter [] ∧ call.answerAfter [] = call.expected

/-- Each call of the sequence is answered as NSession.h says. -/
def AsDocumented (calls : List VariableCall) : Prop :=
  ∀ history call, history ++ [call] <+: calls → some (call.answerAfter history) = call.documented

theorem ofString_getVariable (call : VariableCall) :
    CStr.ofString (DefaultSession.getVariable call.session call.name.text) = call.expected := by
  unfold expected documented DefaultSession.getVariable
  cases call.session.vars[call.name.text]? <;> rfl

theorem answerAfter_nil (call : VariableCall) : call.answerAfter [] = call.expected :=
  ofString_getVariable call

/-- `valueCache` stays what the first call has made it. -/
theorem cacheAfter_cons (first : VariableCall) (history : List VariableCall) :
    cacheAfter (first :: history) =
      some (DefaultSession.getVariable first.session first.name.text) := by
  have hstays : ∀ (v : String) (l : List VariableCall),
      l.foldl (fun valueCache call => (call.run valueCache).2) (some v) = some v := by
    intro v l
    induction l with
    | nil => rfl
    | cons call l ih => exact ih
  exact hstays _ history

theorem answerAfter_cons (first : VariableCall) (history : List VariableCall) (call : VariableCall) :
    call.answerAfter (first :: history) = first.expected := by
  rw [← ofString_getVariable, answerAfter, cacheAfter_cons]
  rfl

/-- The answers of a sequence are what the first call asks for. -/
theorem forall_answer_iff (P : CStr → VariableCall → Prop) (first : VariableCall)
    (calls : List VariableCall) :
    (∀ history call, history ++ [call] <+: first :: calls → P (call.answerAfter history) call) ↔
      ∀ call ∈ first :: calls, P first.expected call := by
  constructor
  · intro h call hcall
    obtain ⟨history, post, hsplit⟩ := List.append_of_mem hcall
    have hprefix : history ++ [call] <+: first :: calls := by
      refine ⟨post, ?_⟩
      rw [hsplit, List.append_assoc, List.singleton_append]
    cases history with
    | nil =>
      obtain ⟨rfl, -⟩ := List.cons.inj hsplit
      exact answerAfter_nil first ▸ h [] first hprefix
    | cons first' history =>
      obtain ⟨rfl, -⟩ := List.cons.inj hsplit
      exact answerAfter_cons first history call ▸ h (first :: history) call hprefix
  · intro h history call hprefix
    have hcall : call ∈ first :: calls :=
      hprefix.subset (List.mem_append_right _ List.mem_cons_self)
    cases history with
    | nil =>
      obtain ⟨rfl, -⟩ := List.cons_prefix_cons.1 hprefix
      rw [answerAfter_nil]
      exact h call hcall
    | cons first' history =>
      obtain ⟨rfl, -⟩ := List.cons_prefix_cons.1 hprefix
      rw [answerAfter_cons]
      exact h call hcall

end VariableCall

open VariableCall in
/-- **Variables.**  A sequence of calls is answered without regard to what came before exactly when
every call asks for the value of the first, and as documented when every call finds it. -/
theorem getVariable_history_iff (calls : List VariableCall) :
    (HistoryFree calls ↔ ∀ first ∈ calls.head?, ∀ call ∈ calls, call.expected = first.expected) ∧
    (AsDocumented calls ↔
      ∀ first ∈ calls.head?, ∀ call ∈ calls, call.documented = some first.expected) := by
  cases calls with
  | nil =>
    have hnone : ∀ (history : List VariableCall) (call : VariableCall),
        ¬ history ++ [call] <+: [] := by
      intro history call h
      have := List.prefix_nil.1 h
      simp at this
    refine ⟨iff_of_true (fun _ _ h => absurd h (hnone _ _)) ?_,
      iff_of_true (fun _ _ h => absurd h (hnone _ _)) ?_⟩
    · rintro _ ⟨⟩
    · rintro _ ⟨⟩
  | cons first calls =>
    have hhead : ∀ P : VariableCall → Prop, (∀ x ∈ (first :: calls).head?, P x) ↔ P first := by
      intro P
      rw [List.head?_cons]
      simp only [Option.mem_some_iff, forall_eq']
    rw [hhead, hhead]
    constructor
    · have := forall_answer_iff (fun answer call =>
        answer = call.answerAfter [] ∧ call.answerAfter [] = call.expected) first calls
      refine this.trans (forall₂_congr fun call _ => ?_)
      rw [answerAfter_nil, and_iff_left rfl, eq_comm]
    · refine (forall_answer_iff (fun answer call => some answer = call.documented) first calls).trans
        (forall₂_congr fun call _ => eq_comm)

/-- A session with two variables. -/
def variableSession : DefaultSession where
  token := ""
  created := false
  createTime := 0
  vars := .ofList [("lang", "en"), ("level", "3")]

/-- The level of the session, after its language. -/
theorem getVariable_not_history :
    VariableCall.answerAfter [⟨variableSession, .ofString "lang"⟩]
        ⟨variableSession, .ofString "level"⟩ = .ofString "en" ∧
      VariableCall.expected ⟨variableSession, .ofString "level"⟩ = .ofString "3" ∧
      ¬ VariableCall.HistoryFree
        [⟨variableSession, .ofString "lang"⟩, ⟨variableSession, .ofString "level"⟩] := by
  have hafter : VariableCall.answerAfter [⟨variableSession, .ofString "lang"⟩]
      ⟨variableSession, .ofString "level"⟩ = .ofString "en" := by decide
  have hlevel : VariableCall.expected ⟨variableSession, .ofString "level"⟩ = .ofString "3" := by
    decide
  refine ⟨hafter, hlevel, fun h => ?_⟩
  have hfree := h [⟨variableSession, .ofString "lang"⟩] ⟨variableSession, .ofString "level"⟩
    (List.prefix_refl _)
  rw [hfree.2, hafter, hlevel] at hfree
  exact absurd hfree.1 (by decide)

end NakamaCpp.CApi
