import NakamaCpp.CApi.ReqTables
import NakamaCpp.CApi.RtListener
import NakamaCpp.CApi.Session
import NakamaCpp.Lib.Handles

/-!
# The registries behind the C handles

A C session is in `g_sessions` from when an authentication has succeeded, or a session has been
restored, until `~NSessionWrapper`; `authenticateOk` makes the wrapper if it finds a success
callback.  A C map is in one of the `g_maps` while a function that has made it runs: an operation
with a map among its arguments, `updateVariables`, an error or matchmaker closure of NRtClientC.cpp.

    `g_sessions` has the sessions of the wrappers that are alive and no others, and `g_maps` are
    after an operation or a callback what they were before, all through a run
      ↔  each authentication that succeeds finds its success callback, and no exception leaves a
         function that has made a map                                    (registries_balanced_iff)
-/

namespace NakamaCpp.CApi

open Rest CInterop Transition Handles
open Realtime (NRtError)

/-! ## Maps -/

/-- The two `g_maps`. -/
structure MapRegistries where
  strings : Registry NStringMap := ∅
  doubles : Registry NStringDoubleMap := ∅

/-- The maps that a function has made, with their addresses. -/
structure SavedMaps where
  strings : List (Nat × NStringMap) := []
  doubles : List (Nat × NStringDoubleMap) := []

namespace MapRegistries

def save (g : MapRegistries) (l : SavedMaps) : MapRegistries where
  strings := saveAll g.strings l.strings
  doubles := saveAll g.doubles l.doubles

def destroy (g : MapRegistries) (l : SavedMaps) : MapRegistries where
  strings := destroyAll g.strings l.strings
  doubles := destroyAll g.doubles l.doubles

def Fresh (g : MapRegistries) (l : SavedMaps) : Prop :=
  Handles.Fresh g.strings l.strings ∧ Handles.Fresh g.doubles l.doubles

instance (g : MapRegistries) (l : SavedMaps) : Decidable (g.Fresh l) :=
  inferInstanceAs (Decidable (_ ∧ _))

theorem destroy_save (g : MapRegistries) (l : SavedMaps) (h : g.Fresh l) :
    (g.save l).destroy l = g := by
  rw [destroy, save, destroyAll_saveAll h.1, destroyAll_saveAll h.2]

end MapRegistries

theorem MapRegistries.save_ne {g : MapRegistries} {l : SavedMaps} (h : g.Fresh l)
    (hne : ¬ (l.strings = [] ∧ l.doubles = [])) : g.save l ≠ g := by
  intro heq
  refine hne ⟨?_, ?_⟩
  · by_contra hstrings
    exact saveAll_ne h.1 hstrings (congrArg MapRegistries.strings heq)
  · by_contra hdoubles
    exact saveAll_ne h.2 hdoubles (congrArg MapRegistries.doubles heq)

/-- The argument that an operation gets as a `::NStringMap`. -/
def ClientOp.vars : ClientOp → NStringMap
  | .authenticateDevice _ _ _ vars | .authenticateEmail _ _ _ _ vars => vars
  | .authenticateFacebook _ _ _ _ vars | .authenticateGoogle _ _ _ vars => vars
  | .authenticateGameCenter _ _ _ vars | .authenticateCustom _ _ _ vars => vars
  | .authenticateSteam _ _ _ vars => vars
  | _ => ∅

/-- What runs some code of the wrappers or of the C interface, and at last returns from it. -/
inductive Entry
  /-- an operation of the `w`th `NClientWrapper`, or `NRtClientWrapper` -/
  | clientCall (w : Nat) (op : ClientOp) (successCallback errorCallback : Bool)
  | rtCall (w : Nat) (op : RtOp) (successCallback errorCallback : Bool)
  /-- `updateVariables` of a session wrapper -/
  | getVariables (cSession : CSession) (vars : NStringMap)
  /-- an authentication succeeds -/
  | authenticated (w number : Nat) (cSession : CSession) (session : NSession)
  /-- another request succeeds, or a request fails -/
  | clientCompletes (w number : Nat) (ok : Bool)
  | defaultError
  | rtSucceeds (w number : Nat)
  | rtFails (w number : Nat) (error : NRtError)
  /-- the default listener calls a closure -/
  | event (e : ListenerEvent)

namespace Entry

/-- The `::NStringMap`s that are made. -/
def stringMaps : Entry → List NStringMap
  | .clientCall _ op _ _ => (toCNStringMap (ClientOp.vars op)).toList
  | .rtCall _ (.joinMatch _ metadata) _ _ => (toCNStringMap metadata).toList
  | .rtCall _ (.addMatchmaker _ _ _ stringProperties _) _ _ =>
    (toCNStringMap stringProperties).toList
  | .getVariables _ vars => [vars]
  | .rtFails _ _ error | .event (.onError error) => (SNRtError.assign error).context.toList
  | .event (.onMatchmakerMatched matched) =>
    let cMatched := SNMatchmakerMatched.assign matched
    (cMatched.users.toList ++ [cMatched.self]).filterMap SNMatchmakerUser.stringProperties
  | _ => []

/-- The `::NStringDoubleMap`s. -/
def doubleMaps : Entry → List NStringDoubleMap
  | .rtCall _ (.addMatchmaker _ _ _ _ numericProperties) _ _ =>
    (toCNStringDoubleMap numericProperties).toList
  | .event (.onMatchmakerMatched matched) =>
    let cMatched := SNMatchmakerMatched.assign matched
    (cMatched.users.toList ++ [cMatched.self]).filterMap SNMatchmakerUser.numericProperties
  | _ => []

end Entry

/-! ## Wrappers and callbacks -/

/-- An `NSessionWrapper` that is alive, and how many pointers to it there are. -/
structure SessionWrapper where
  cSession : CSession
  session : NSession
  refs : Nat

/-- Its entry in `g_sessions`. -/
def SessionWrapper.entry (w : SessionWrapper) : CSession × NSession := (w.cSession, w.session)

/-- What a function that has been entered does when it ends. -/
inductive FrameKind
  | plain
  /-- a request callback of a client runs, with the session that `authenticateOk` has wrapped -/
  | client (w : Nat) (session : Option CSession)
  | rt (w : Nat)
deriving DecidableEq, Repr

def FrameKind.session : FrameKind → Option CSession
  | .client _ session => session
  | _ => none

/-- The `g_maps` before and after a function. -/
structure Ended where
  before : MapRegistries
  after : MapRegistries

structure RegState where
  sessions : Sessions := []
  wrappers : List SessionWrapper := []
  maps : MapRegistries := {}
  clients : Nat → WrapperState ClientMap := fun _ => {}
  rts : Nat → WrapperState RtMap := fun _ => {}
  /-- the functions that have not ended, innermost first -/
  frames : List (FrameKind × OpenCall MapRegistries SavedMaps) := []
  ended : List Ended := []

inductive RegAction
  /-- with the addresses of the maps that are made -/
  | enter (e : Entry) (strings doubles : List Nat)
  /-- the innermost function returns, or an exception leaves it -/
  | returns
  | throws
  | restoreSession (cSession : CSession) (session : NSession)
  /-- the user copies a pointer to a session wrapper, or drops one -/
  | copySession (cSession : CSession)
  | dropSession (cSession : CSession)

namespace RegState

def findWrapper (s : RegState) (cSession : CSession) : Option SessionWrapper :=
  s.wrappers.find? fun w => w.cSession == cSession

/-- A new number of pointers to a session wrapper. -/
def setRefs (s : RegState) (cSession : CSession) (refs : Nat) : RegState :=
  { s with
    wrappers := s.wrappers.map fun w => if w.cSession = cSession then { w with refs } else w }

/-- One pointer less, and with the last one `~NSessionWrapper`. -/
def release (s : RegState) (cSession : CSession) : RegState :=
  match s.findWrapper cSession with
  | none => s
  | some w =>
    if w.refs ≤ 1 then
      { s with
        sessions := destroySession s.sessions cSession
        wrappers := s.wrappers.eraseP fun w => w.cSession == cSession }
    else s.setRefs cSession (w.refs - 1)

/-- Pointers of functions that have not ended. -/
def heldRefs (s : RegState) (cSession : CSession) : Nat :=
  s.frames.countP fun f => f.1.session == some cSession

/-- The map of each operation's success callbacks. -/
def clientMap (op : ClientOp) : Option ClientMap := some (successMap op)

def setClient (s : RegState) (w : Nat) (client : WrapperState ClientMap) : RegState :=
  { s with clients := Function.update s.clients w client }

def setRt (s : RegState) (w : Nat) (rt : WrapperState RtMap) : RegState :=
  { s with rts := Function.update s.rts w rt }

/-- The outstanding request of a client. -/
def request (s : RegState) (w number : Nat) : Option (WrapperRequest ClientMap) :=
  (s.clients w).outstanding.find? fun r => r.number == number

/-- A success of an authentication finds a success callback. -/
def findsSuccess (s : RegState) (w number : Nat) : Bool :=
  (s.request w number).any fun r => (s.clients w).tables.finds (some .auth) r.id

/-- A completion of a request of an `NRtClientWrapper`. -/
def rtCompletes (s : RegState) (w number : Nat) (ok : Bool) : Option (RegState × FrameKind) := do
  let r ← (s.rts w).outstanding.find? fun r => r.number == number
  let rt ← (s.rts w).step RtOp.successMap (.complete number ok)
  return (s.setRt w rt,
    if (s.rts w).tables.finds (r.lookedUp ok) r.id then .rt w else .plain)

/-- What is entered, but for the maps. -/
def entered (s : RegState) : Entry → Option (RegState × FrameKind)
  | .clientCall w op successCallback errorCallback => do
    let client ← (s.clients w).step clientMap (.request op successCallback errorCallback)
    return (s.setClient w client, .plain)
  | .rtCall w op successCallback errorCallback => do
    let rt ← (s.rts w).step RtOp.successMap (.request op successCallback errorCallback)
    return (s.setRt w rt, .plain)
  | .getVariables cSession _ => do
    let _ ← s.findWrapper cSession
    return (s, .plain)
  | .authenticated w number cSession session => do
    let r ← s.request w number
    let client ← (s.clients w).step clientMap (.complete number true)
    if r.kind = .auth ∧ cSession ∉ s.sessions.map Prod.fst then
      let saved :=
        { s.setClient w client with sessions := saveSession s.sessions cSession session }
      if s.findsSuccess w number then
        return ({ saved with wrappers := s.wrappers ++ [⟨cSession, session, 1⟩] },
          .client w (some cSession))
      else return (saved, .plain)
    else none
  | .clientCompletes w number ok => do
    let r ← s.request w number
    let client ← (s.clients w).step clientMap (.complete number ok)
    if ok = true ∧ r.kind = .auth then none
    else
      return (s.setClient w client,
        if (s.clients w).tables.finds (r.lookedUp ok) r.id then .client w none else .plain)
  | .rtSucceeds w number => s.rtCompletes w number true
  | .rtFails w number _ => s.rtCompletes w number false
  | .defaultError | .event _ => some (s, .plain)

/-- The maps at their addresses. -/
def saved (e : Entry) (strings doubles : List Nat) : SavedMaps where
  strings := strings.zip e.stringMaps
  doubles := doubles.zip e.doubleMaps

/-- A function is entered with its maps. -/
def push (s : RegState) (kind : FrameKind) (saved : SavedMaps) : RegState :=
  { s with maps := s.maps.save saved, frames := (kind, ⟨s.maps, saved⟩) :: s.frames }

/-- What the end of a function does, but for the maps. -/
def left (s : RegState) (threw : Bool) : FrameKind → Option RegState
  | .plain => some s
  | .client w session => do
    let client ← (s.clients w).step clientMap (if threw then .throws else .returns)
    return session.elim (s.setClient w client) (s.setClient w client).release
  | .rt w => do
    let rt ← (s.rts w).step RtOp.successMap (if threw then .throws else .returns)
    return s.setRt w rt

/-- The innermost function ends; only one that returns destroys its maps. -/
def leave (s : RegState) (threw : Bool) : Option RegState :=
  match s.frames with
  | [] => none
  | (kind, b) :: frames =>
    let maps := if threw then s.maps else s.maps.destroy b.saved
    let next : RegState := { s with maps, frames, ended := s.ended ++ [⟨b.before, maps⟩] }
    next.left threw kind

def step (s : RegState) : RegAction → Option RegState
  | .enter e strings doubles =>
    if strings.length = e.stringMaps.length ∧ doubles.length = e.doubleMaps.length ∧
        s.maps.Fresh (saved e strings doubles) then
      (s.entered e).map fun next => next.1.push next.2 (saved e strings doubles)
    else none
  | .returns => s.leave false
  | .throws => s.leave true
  | .restoreSession cSession session =>
    if cSession ∉ s.sessions.map Prod.fst then
      some { s with
        sessions := saveSession s.sessions cSession session
        wrappers := s.wrappers ++ [⟨cSession, session, 1⟩] }
    else none
  | .copySession cSession =>
    (s.findWrapper cSession).map fun w => s.setRefs cSession (w.refs + 1)
  | .dropSession cSession => do
    let w ← s.findWrapper cSession
    if s.heldRefs cSession < w.refs then some (s.release cSession) else none

/-- An authentication that succeeds finds its success callback, and an exception leaves only
functions that have made no maps. -/
def balancedOk (s : RegState) : RegAction → Bool
  | .enter (.authenticated w number _ _) _ _ => s.findsSuccess w number
  | .throws => s.frames.head?.all fun f => f.2.saved.strings.isEmpty && f.2.saved.doubles.isEmpty
  | _ => true

/-! ## What a step does -/

/-- The maps, and the functions that have not ended, are as they were. -/
structure SameMaps (s s' : RegState) : Prop where
  maps : s'.maps = s.maps
  frames : s'.frames = s.frames
  ended : s'.ended = s.ended

/-- The sessions and their wrappers are as they were. -/
structure SameSessions (s s' : RegState) : Prop where
  sessions : s'.sessions = s.sessions
  wrappers : s'.wrappers = s.wrappers

theorem rtCompletes_cases {s next : RegState} {w number : Nat} {ok : Bool} {kind : FrameKind}
    (h : s.rtCompletes w number ok = some (next, kind)) : SameMaps s next ∧ SameSessions s next := by
  obtain ⟨r, -, h⟩ := Option.bind_eq_some_iff.1 h
  obtain ⟨rt, -, h⟩ := Option.bind_eq_some_iff.1 h
  cases h
  exact ⟨⟨rfl, rfl, rfl⟩, ⟨rfl, rfl⟩⟩

/-- The session of an authentication is saved; a wrapper is made if there is a callback for it. -/
theorem authenticated_cases {s next : RegState} {w number : Nat} {cSession : CSession}
    {session : NSession} {kind : FrameKind}
    (h : s.entered (.authenticated w number cSession session) = some (next, kind)) :
    SameMaps s next ∧ cSession ∉ s.sessions.map Prod.fst ∧
      next.sessions = saveSession s.sessions cSession session ∧
      next.wrappers =
        if s.findsSuccess w number then s.wrappers ++ [⟨cSession, session, 1⟩] else s.wrappers := by
  rw [entered] at h
  obtain ⟨r, -, h⟩ := Option.bind_eq_some_iff.1 h
  obtain ⟨client, -, h⟩ := Option.bind_eq_some_iff.1 h
  split at h
  · next hauth =>
    by_cases hfinds : s.findsSuccess w number = true
    · rw [if_pos hfinds] at h
      cases h
      refine ⟨⟨rfl, rfl, rfl⟩, hauth.2, rfl, ?_⟩
      rw [if_pos hfinds]
    · rw [if_neg hfinds] at h
      cases h
      refine ⟨⟨rfl, rfl, rfl⟩, hauth.2, rfl, ?_⟩
      rw [if_neg hfinds]
      rfl
  · cases h

/-- What else is entered leaves the sessions alone. -/
theorem entered_cases {s next : RegState} {e : Entry} {kind : FrameKind}
    (h : s.entered e = some (next, kind)) :
    SameMaps s next ∧ (SameSessions s next ∨
      ∃ w number cSession session, e = .authenticated w number cSession session) := by
  cases e with
  | clientCall w op successCallback errorCallback =>
    rw [entered] at h
    obtain ⟨client, -, h⟩ := Option.bind_eq_some_iff.1 h
    cases h
    exact ⟨⟨rfl, rfl, rfl⟩, .inl ⟨rfl, rfl⟩⟩
  | rtCall w op successCallback errorCallback =>
    rw [entered] at h
    obtain ⟨rt, -, h⟩ := Option.bind_eq_some_iff.1 h
    cases h
    exact ⟨⟨rfl, rfl, rfl⟩, .inl ⟨rfl, rfl⟩⟩
  | getVariables cSession vars =>
    rw [entered] at h
    obtain ⟨wrapper, -, h⟩ := Option.bind_eq_some_iff.1 h
    cases h
    exact ⟨⟨rfl, rfl, rfl⟩, .inl ⟨rfl, rfl⟩⟩
  | authenticated w number cSession session =>
    exact ⟨(authenticated_cases h).1, .inr ⟨w, number, cSession, session, rfl⟩⟩
  | clientCompletes w number ok =>
    rw [entered] at h
    obtain ⟨r, -, h⟩ := Option.bind_eq_some_iff.1 h
    obtain ⟨client, -, h⟩ := Option.bind_eq_some_iff.1 h
    split at h <;> cases h
    exact ⟨⟨rfl, rfl, rfl⟩, .inl ⟨rfl, rfl⟩⟩
  | rtSucceeds w number =>
    obtain ⟨hmaps, hsessions⟩ := rtCompletes_cases h
    exact ⟨hmaps, .inl hsessions⟩
  | rtFails w number error =>
    obtain ⟨hmaps, hsessions⟩ := rtCompletes_cases h
    exact ⟨hmaps, .inl hsessions⟩
  | defaultError =>
    cases h
    exact ⟨⟨rfl, rfl, rfl⟩, .inl ⟨rfl, rfl⟩⟩
  | event e =>
    cases h
    exact ⟨⟨rfl, rfl, rfl⟩, .inl ⟨rfl, rfl⟩⟩

theorem release_sameMaps (s : RegState) (cSession : CSession) : SameMaps s (s.release cSession) := by
  unfold release
  split
  · exact ⟨rfl, rfl, rfl⟩
  · split <;> exact ⟨rfl, rfl, rfl⟩

/-- A function that ends releases at most the session that it has held. -/
theorem left_cases {s next : RegState} {threw : Bool} {kind : FrameKind}
    (h : s.left threw kind = some next) :
    SameMaps s next ∧ ∃ s₁, SameSessions s s₁ ∧
      (next = s₁ ∨ ∃ cSession, next = s₁.release cSession) := by
  cases kind with
  | plain =>
    cases h
    exact ⟨⟨rfl, rfl, rfl⟩, s, ⟨rfl, rfl⟩, .inl rfl⟩
  | client w session =>
    obtain ⟨client, -, h⟩ := Option.bind_eq_some_iff.1 h
    cases h
    cases session with
    | none => exact ⟨⟨rfl, rfl, rfl⟩, s.setClient w client, ⟨rfl, rfl⟩, .inl rfl⟩
    | some cSession =>
      have hmaps := release_sameMaps (s.setClient w client) cSession
      exact ⟨⟨hmaps.maps, hmaps.frames, hmaps.ended⟩, s.setClient w client, ⟨rfl, rfl⟩,
        .inr ⟨cSession, rfl⟩⟩
  | rt w =>
    obtain ⟨rt, -, h⟩ := Option.bind_eq_some_iff.1 h
    cases h
    exact ⟨⟨rfl, rfl, rfl⟩, s.setRt w rt, ⟨rfl, rfl⟩, .inl rfl⟩

/-! ## Sessions -/

/-- The registry has the sessions of the wrappers that are alive, and no others. -/
structure SessionsBalanced (s : RegState) : Prop where
  entries : s.sessions = s.wrappers.map SessionWrapper.entry
  addresses : (s.sessions.map Prod.fst).Nodup
  live : ∀ w ∈ s.wrappers, 0 < w.refs

theorem SessionsBalanced.congr {s s' : RegState} (h : SessionsBalanced s) (hs : SameSessions s s') :
    SessionsBalanced s' := by
  refine ⟨?_, ?_, ?_⟩
  · rw [hs.sessions, hs.wrappers, h.entries]
  · rw [hs.sessions]
    exact h.addresses
  · rw [hs.wrappers]
    exact h.live

/-- A session is saved and wrapped. -/
theorem SessionsBalanced.save {s s' : RegState} (h : SessionsBalanced s) {cSession : CSession}
    {session : NSession} (hnew : cSession ∉ s.sessions.map Prod.fst)
    (hsessions : s'.sessions = saveSession s.sessions cSession session)
    (hwrappers : s'.wrappers = s.wrappers ++ [⟨cSession, session, 1⟩]) : SessionsBalanced s' := by
  refine ⟨?_, ?_, fun w hw => ?_⟩
  · rw [hsessions, hwrappers, List.map_append, ← h.entries]
    rfl
  · rw [hsessions, saveSession, List.map_append, List.nodup_append]
    refine ⟨h.addresses, List.nodup_singleton _, fun a ha b hb hab => ?_⟩
    obtain rfl := List.mem_singleton.1 hb
    exact hnew (hab ▸ ha)
  · rw [hwrappers] at hw
    rcases List.mem_append.1 hw with hold | hlast
    · exact h.live w hold
    · rw [List.mem_singleton.1 hlast]
      exact Nat.one_pos

theorem SessionsBalanced.setRefs {s : RegState} (h : SessionsBalanced s) (cSession : CSession)
    {refs : Nat} (hrefs : 0 < refs) : SessionsBalanced (s.setRefs cSession refs) := by
  refine ⟨?_, h.addresses, fun w hw => ?_⟩
  · show s.sessions = (s.wrappers.map _).map SessionWrapper.entry
    rw [h.entries, List.map_map]
    refine List.map_congr_left fun w _ => ?_
    show w.entry = SessionWrapper.entry (if w.cSession = cSession then { w with refs } else w)
    split <;> rfl
  · obtain ⟨w', hw', rfl⟩ := List.mem_map.1 hw
    split
    · exact hrefs
    · exact h.live w' hw'

theorem SessionsBalanced.release {s : RegState} (h : SessionsBalanced s) (cSession : CSession) :
    SessionsBalanced (s.release cSession) := by
  unfold RegState.release
  split
  · exact h
  · split
    · refine ⟨?_, ?_, fun w hw => h.live w (List.mem_of_mem_eraseP hw)⟩
      · show destroySession s.sessions cSession = _
        rw [destroySession, h.entries, List.eraseP_map]
        rfl
      · exact (List.eraseP_sublist.map Prod.fst).nodup h.addresses
    · next hrefs => exact h.setRefs cSession (by omega)

/-! ## Every run -/

/-- What one step keeps. -/
structure Inv (s : RegState) : Prop where
  sessions : SessionsBalanced s
  nested : Brackets MapRegistries.save MapRegistries.Fresh {} (s.frames.map Prod.snd) s.maps
  ended : ∀ e ∈ s.ended, e.after = e.before

theorem Inv.init : Inv {} where
  sessions := ⟨rfl, List.nodup_nil, fun _ hw => absurd hw List.not_mem_nil⟩
  nested := rfl
  ended := by simp

/-- A function is entered. -/
theorem Inv.enter {s next : RegState} (hi : Inv s) {e : Entry} {kind : FrameKind}
    {saved : SavedMaps} (hfresh : s.maps.Fresh saved) (h : s.entered e = some (next, kind))
    (hok : ∀ w number cSession session, e = .authenticated w number cSession session →
      s.findsSuccess w number = true) : Inv (next.push kind saved) := by
  obtain ⟨hmaps, hsessions⟩ := entered_cases h
  refine ⟨?_, ?_, ?_⟩
  · rcases hsessions with hsame | ⟨w, number, cSession, session, rfl⟩
    · exact hi.sessions.congr ⟨hsame.sessions, hsame.wrappers⟩
    · obtain ⟨-, hnew, hsaved, hwrapped⟩ := authenticated_cases h
      rw [if_pos (hok w number cSession session rfl)] at hwrapped
      exact hi.sessions.save hnew hsaved hwrapped
  · show Brackets _ _ _ (⟨next.maps, saved⟩ :: next.frames.map Prod.snd) (next.maps.save saved)
    rw [hmaps.maps, hmaps.frames]
    exact hi.nested.opens hfresh
  · show ∀ e ∈ next.ended, e.after = e.before
    rw [hmaps.ended]
    exact hi.ended

/-- A function ends, with its maps destroyed or with none. -/
theorem Inv.leave {s s' : RegState} (hi : Inv s) {threw : Bool} (h : s.leave threw = some s')
    (hok : threw = true → ∀ f ∈ s.frames.head?, f.2.saved.strings = [] ∧ f.2.saved.doubles = []) :
    Inv s' := by
  unfold RegState.leave at h
  split at h
  · cases h
  · next kind b frames hframes =>
    have hnested := hi.nested
    rw [hframes] at hnested
    obtain ⟨hdestroy, hrest⟩ := hnested.closes MapRegistries.destroy_save
    have hback : (if threw then s.maps else s.maps.destroy b.saved) = b.before := by
      cases threw with
      | false => exact hdestroy
      | true =>
        obtain ⟨hstrings, hdoubles⟩ := hok rfl (kind, b) (by rw [hframes]; rfl)
        have hnone : s.maps.destroy b.saved = s.maps := by
          rw [MapRegistries.destroy, hstrings, hdoubles]
          rfl
        exact hnone ▸ hdestroy
    obtain ⟨hmaps, s₁, hsame, hnext⟩ := left_cases h
    refine ⟨?_, ?_, ?_⟩
    · have h₁ : SessionsBalanced s₁ := hi.sessions.congr ⟨hsame.sessions, hsame.wrappers⟩
      rcases hnext with rfl | ⟨cSession, rfl⟩
      · exact h₁
      · exact h₁.release cSession
    · rw [hmaps.maps, hmaps.frames]
      show Brackets _ _ _ (frames.map Prod.snd)
        (if threw then s.maps else s.maps.destroy b.saved)
      rw [hback]
      exact hrest
    · rw [hmaps.ended]
      intro e he
      rcases List.mem_append.1 he with hold | hlast
      · exact hi.ended e hold
      · rw [List.mem_singleton.1 hlast]
        exact hback

theorem Inv.step {s s' : RegState} {a : RegAction} (hi : Inv s) (hok : s.balancedOk a = true)
    (h : s.step a = some s') : Inv s' := by
  cases a with
  | enter e strings doubles =>
    simp only [RegState.step] at h
    split at h
    · next hmaps =>
      obtain ⟨⟨next, kind⟩, hentered, rfl⟩ := Option.map_eq_some_iff.1 h
      refine hi.enter hmaps.2.2 hentered ?_
      rintro w number cSession session rfl
      exact hok
    · cases h
  | returns => exact hi.leave h fun hthrew => by cases hthrew
  | throws =>
    refine hi.leave h fun _ f hf => ?_
    simp only [balancedOk] at hok
    rw [Option.mem_def.1 hf] at hok
    simpa using hok
  | restoreSession cSession session =>
    simp only [RegState.step] at h
    split at h <;> cases h
    next hnew => exact ⟨hi.sessions.save hnew rfl rfl, hi.nested, hi.ended⟩
  | copySession cSession =>
    obtain ⟨w, -, rfl⟩ := Option.map_eq_some_iff.1 h
    exact ⟨hi.sessions.setRefs cSession (Nat.succ_pos _), hi.nested, hi.ended⟩
  | dropSession cSession =>
    obtain ⟨w, -, h⟩ := Option.bind_eq_some_iff.1 h
    split at h <;> cases h
    have hsame := release_sameMaps s cSession
    refine ⟨hi.sessions.release cSession, ?_, ?_⟩
    · rw [hsame.maps, hsame.frames]
      exact hi.nested
    · rw [hsame.ended]
      exact hi.ended

/-- The registry of the sessions has one entry for each wrapper that is alive and no other, under
which the session of the wrapper is found; every function that has ended has left the registries
of the maps as it found them, and between two functions they are empty. -/
structure Balanced (s : RegState) : Prop where
  sessions : SessionsBalanced s
  found : ∀ w ∈ s.wrappers, getSession s.sessions w.cSession = some w.session
  maps : ∀ e ∈ s.ended, e.after = e.before
  rest : s.frames = [] → s.maps = {}

theorem Inv.balanced {s : RegState} (hi : Inv s) : Balanced s where
  sessions := hi.sessions
  found := by
    intro w hw
    refine SessionState.getSession_of_mem hi.sessions.addresses ?_
    rw [hi.sessions.entries]
    exact List.mem_map_of_mem (f := SessionWrapper.entry) hw
  maps := hi.ended
  rest := by
    intro hframes
    have hnested := hi.nested
    rw [hframes] at hnested
    exact hnested

/-- A step that leaves the registries balanced has met the condition. -/
theorem Inv.balancedOk_of_balanced {s s' : RegState} {a : RegAction} (hi : Inv s)
    (h : s.step a = some s') (hb : Balanced s') : s.balancedOk a = true := by
  by_contra hok
  cases a with
  | enter e strings doubles =>
    cases e with
    | authenticated w number cSession session =>
      simp only [RegState.step] at h
      split at h
      · obtain ⟨⟨next, kind⟩, hentered, rfl⟩ := Option.map_eq_some_iff.1 h
        obtain ⟨-, -, hsaved, hwrapped⟩ := authenticated_cases hentered
        have hlost : ¬ s.findsSuccess w number = true := hok
        rw [if_neg hlost] at hwrapped
        -- the session is saved, and no wrapper is made for it
        have hentries : next.sessions = next.wrappers.map SessionWrapper.entry :=
          hb.sessions.entries
        rw [hsaved, hwrapped, ← hi.sessions.entries] at hentries
        have hlength := congrArg List.length hentries
        simp [saveSession] at hlength
      · cases h
    | _ => exact hok rfl
  | throws =>
    have hleave : s.leave true = some s' := h
    unfold RegState.leave at hleave
    split at hleave
    · cases hleave
    · next kind b frames hframes =>
      have hnested := hi.nested
      rw [hframes] at hnested
      obtain ⟨hsaved, hfresh, -⟩ := hnested
      obtain ⟨hsame, -⟩ := left_cases hleave
      have hleft : s.maps = b.before := by
        refine hb.maps ⟨b.before, s.maps⟩ ?_
        rw [hsame.ended]
        exact List.mem_append_right _ List.mem_cons_self
      refine MapRegistries.save_ne hfresh (fun hnone => hok ?_) (hsaved.symm.trans hleft)
      simp only [balancedOk, hframes, List.head?_cons, Option.all_some]
      rw [hnone.1, hnone.2]
      rfl
  | _ => exact hok rfl

/-- A run whose steps all keep the invariant. -/
theorem inv_of_run {as : List RegAction}
    (hstep : ∀ pre a s s', pre ++ [a] <+: as → exec step anyStep {} pre = some s →
      Inv s → s.step a = some s' → Inv s')
    (pre : List RegAction) (hpre : pre <+: as) {s : RegState}
    (hs : exec step anyStep {} pre = some s) : Inv s := by
  induction pre using List.reverseRecOn generalizing s with
  | nil =>
    cases hs
    exact .init
  | append_singleton pre a ih =>
    obtain ⟨s₁, hs₁, ha⟩ := exec_anyStep_concat.1 hs
    have hi := ih ((List.prefix_append pre [a]).trans hpre) hs₁
    exact hstep pre a s₁ s hpre hs₁ hi ha

/-- **Registries.**  In a run the registries are balanced all the time exactly when each
authentication that succeeds finds its success callback, and no exception leaves a function that
has made a map. -/
theorem registries_balanced_iff (as : List RegAction) :
    (∀ pre s, pre <+: as → exec step anyStep {} pre = some s → Balanced s) ↔
      ∀ pre a s s', pre ++ [a] <+: as → exec step anyStep {} pre = some s →
        s.step a = some s' → s.balancedOk a = true := by
  constructor
  · intro hbalanced pre a s s' hpre hs ha
    have hnext : ∀ pre a s s', pre ++ [a] <+: as → exec step anyStep {} pre = some s → Inv s →
        s.step a = some s' → s.balancedOk a = true := by
      intro pre a s s' hpre hs hi ha
      exact hi.balancedOk_of_balanced ha
        (hbalanced (pre ++ [a]) s' hpre (exec_anyStep_concat.2 ⟨s, hs, ha⟩))
    have hi : Inv s := by
      refine inv_of_run (fun pre a s s' hpre hs hi ha => ?_) pre
        ((List.prefix_append pre [a]).trans hpre) hs
      exact hi.step (hnext pre a s s' hpre hs hi ha) ha
    exact hnext pre a s s' hpre hs hi ha
  · intro hok pre s hpre hs
    have hi : Inv s := by
      refine inv_of_run (fun pre a s s' hpre hs hi ha => ?_) pre hpre hs
      exact hi.step (hok pre a s s' hpre hs ha) ha
    exact hi.balanced

def deviceVars : NStringMap := .ofList [("lang", "en")]

def deviceSession : NSession := ⟨"token", "user"⟩

def matchError : NRtError := ⟨3, "no match", .ofList [("match", "id")]⟩

/-- A session is kept from the success callback on, a match cannot be joined, and the session is
dropped. -/
def balancedRun : List RegAction :=
  [.enter (.clientCall 0 (.authenticateDevice "device" none none deviceVars) true true) [10] [],
    .returns, .enter (.authenticated 0 0 100 deviceSession) [] [],
    .enter (.getVariables 100 deviceVars) [10] [], .copySession 100, .returns, .returns,
    .enter (.rtCall 0 (.joinMatch "id" deviceVars) false true) [10] [],
    .enter (.rtFails 0 0 matchError) [11] [], .returns, .returns, .dropSession 100]

example : (exec step (fun s a => s.balancedOk a = true) {} balancedRun).isSome = true := by decide

/-- An authentication with an error callback only succeeds. -/
def unwrappedRun : List RegAction :=
  [.enter (.clientCall 0 (.authenticateDevice "device" none none ∅) false true) [] [], .returns,
    .enter (.authenticated 0 0 100 deviceSession) [] [], .returns]

/-- The error callback of a request throws. -/
def thrownRun : List RegAction :=
  [.enter (.rtCall 0 .createMatch false true) [] [], .returns,
    .enter (.rtFails 0 0 matchError) [11] [], .throws]

/-- The session stays in the registry with no wrapper, and the context of the error in the registry
of the maps. -/
theorem not_registries_balanced :
    (∃ s, Reach step anyStep {} s ∧ s.sessions = [(100, deviceSession)] ∧ s.wrappers = [] ∧
      s.frames = [] ∧ ¬ Balanced s) ∧
    ∃ s, Reach step anyStep {} s ∧ s.frames = [] ∧ s.maps.strings.contains 11 = true ∧
      ¬ Balanced s := by
  have hleft : ∀ {s : RegState}, s.frames = [] → s.maps.strings.contains 11 = true →
      ¬ Balanced s := by
    intro s hframes hcontains hb
    rw [hb.rest hframes] at hcontains
    exact absurd hcontains (by decide)
  have hunwrapped : (exec step anyStep {} unwrappedRun).isSome = true := by decide
  have hthrown : (exec step anyStep {} thrownRun).isSome = true := by decide
  refine ⟨⟨_, Reach.get_exec _ hunwrapped, rfl, rfl, rfl, fun hb => ?_⟩,
    ⟨_, Reach.get_exec _ hthrown, rfl, rfl, hleft rfl rfl⟩⟩
  exact absurd hb.sessions.entries (List.cons_ne_nil _ _)

end RegState

end NakamaCpp.CApi
