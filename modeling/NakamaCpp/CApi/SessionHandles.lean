import NakamaCpp.CApi.MapHandles
import NakamaCpp.CApi.Session

/-!
# Sessions behind handles

`NSessionWrapper` of include/nakama-cpp-c-wrapper/Impl/NSessionWrapperImpl.h over the functions of
src/nakama-c/NSessionC.cpp.  The wrapper keeps the texts and the variables that it has read, as long
as they are not empty; the variables come through a C map that is destroyed again.

    a program that uses sessions it has not released  →  a wrapper answers as its session does,
      whatever has been asked before and wherever the session is              (sessions_refine)
-/

namespace NakamaCpp.CApi

open Rest CInterop Handles Lockstep Std

/-! ## The functions -/

/-- `g_sessions`, each session with its address. -/
abbrev SessionVector := List (CSession × DefaultSession)

namespace SessionVector

/-- The session that a C function finds at an address; one that is not kept is gone. -/
def at? (g : SessionVector) (cSession : CSession) : Option DefaultSession :=
  (g.find? fun e => e.1 == cSession).map Prod.snd

/-- `saveSession`. -/
def save (g : SessionVector) (cSession : CSession) (session : DefaultSession) : SessionVector :=
  g ++ [(cSession, session)]

/-- `NSession_destroy`. -/
def destroy (g : SessionVector) (cSession : CSession) : SessionVector :=
  g.eraseP fun e => e.1 == cSession

/-- `NSession_getAuthToken`, and `NSession_getUsername` and `NSession_getUserId`. -/
def getText (g : SessionVector) (text : DefaultSession → String) (cSession : CSession) :
    Option CStr :=
  (g.at? cSession).map fun session => cStr (text session)

end SessionVector

/-- `NSessionWrapper`. -/
structure NSessionWrapper where
  cSession : CSession
  authToken : String := ""
  username : String := ""
  userId : String := ""
  vars : NStringMap := ∅

/-- The lines of `getAuthToken`, `getUsername` and `getUserId`: what is kept afterwards. -/
def cachedText (g : SessionVector) (text : DefaultSession → String) (cSession : CSession)
    (cache : String) : Option String :=
  if cache.isEmpty then (g.getText text cSession).map CStr.text else some cache

/-- `updateVariables`, with `NSession_getVariables` saving the map at `addr`. -/
def updateVariables (g : SessionVector) (maps : MapRegistry String) (addr : Nat)
    (w : NSessionWrapper) : Option (NSessionWrapper × MapRegistry String) :=
  if w.vars.isEmpty then do
    let session ← g.at? w.cSession
    let maps := maps.save addr session.vars
    let vars ← MapRegistry.toCppMap stringValue (fun _ => none) maps addr
    return ({ w with vars }, maps.destroy addr)
  else some (w, maps)

/-! ## Programs -/

/-- A function of `NSessionInterface`; `addr` is where the allocator puts the C map of variables. -/
inductive SessionQuery
  | getAuthToken
  | isCreated
  | getUsername
  | getUserId
  | getCreateTime
  | getExpireTime
  /-- `isExpired` of the time that the clock has, or of one that is given -/
  | isExpired (now : UInt64)
  | getVariables (addr : Nat)
  | getVariable (addr : Nat) (name : String)

inductive SessionAnswer
  | text (text : String)
  | flag (flag : Bool)
  | time (time : UInt64)
  | vars (vars : NStringMap)

namespace SessionQuery

/-- `DefaultSession` is asked. -/
def ask (session : DefaultSession) : SessionQuery → SessionAnswer
  | .getAuthToken => .text session.token
  | .isCreated => .flag session.created
  | .getUsername => .text session.username
  | .getUserId => .text session.userId
  | .getCreateTime => .time session.createTime
  | .getExpireTime => .time session.expireTime
  | .isExpired now => .flag (session.isExpired now)
  | .getVariables _ => .vars session.vars
  | .getVariable _ name => .text (DefaultSession.getVariable session name)

/-- `NSessionWrapper` is asked: the wrapper and the maps afterwards, and the answer. -/
def askWrapper (g : SessionVector) (maps : MapRegistry String) (w : NSessionWrapper) :
    SessionQuery → Option (NSessionWrapper × MapRegistry String × SessionAnswer)
  | .getAuthToken =>
    (cachedText g DefaultSession.token w.cSession w.authToken).map fun authToken =>
      ({ w with authToken }, maps, .text authToken)
  | .getUsername =>
    (cachedText g DefaultSession.username w.cSession w.username).map fun username =>
      ({ w with username }, maps, .text username)
  | .getUserId =>
    (cachedText g DefaultSession.userId w.cSession w.userId).map fun userId =>
      ({ w with userId }, maps, .text userId)
  | .isCreated => (g.at? w.cSession).map fun session => (w, maps, .flag session.created)
  | .getCreateTime => (g.at? w.cSession).map fun session => (w, maps, .time session.createTime)
  | .getExpireTime => (g.at? w.cSession).map fun session => (w, maps, .time session.expireTime)
  | .isExpired now =>
    (g.at? w.cSession).map fun session => (w, maps, .flag (session.isExpired now))
  | .getVariables addr =>
    (updateVariables g maps addr w).map fun r => (r.1, r.2, .vars r.1.vars)
  | .getVariable addr name =>
    (updateVariables g maps addr w).map fun r => (r.1, r.2, .text (r.1.vars[name]?.getD ""))

end SessionQuery

/-- A call of a program that numbers its sessions. -/
inductive SessionCall
  /-- an authentication has succeeded, or `restoreSession`; the session is at `addr` -/
  | create (addr : CSession) (session : DefaultSession)
  | query (i : Nat) (q : SessionQuery)
  /-- the last pointer to the wrapper goes -/
  | release (i : Nat)

/-- `g_sessions`, the `g_maps` of strings, and the wrappers. -/
structure WrappedSessions where
  g : SessionVector := []
  maps : MapRegistry String
  wrappers : List NSessionWrapper := []

namespace SessionCall

/-- A call through the wrappers, and what it is answered if it is a query; the program stops at
`none`. -/
def step (t : WrappedSessions) : SessionCall → WrappedSessions × Option (Option SessionAnswer)
  | .create addr session =>
    ({ t with g := t.g.save addr session, wrappers := t.wrappers ++ [{ cSession := addr }] },
      some none)
  | .query i q =>
    match (t.wrappers[i]?).bind fun w => q.askWrapper t.g t.maps w with
    | some (w, maps, answer) =>
      ({ t with maps, wrappers := t.wrappers.set i w }, some (some answer))
    | none => (t, none)
  | .release i =>
    match t.wrappers[i]? with
    | some w => ({ t with g := t.g.destroy w.cSession }, some none)
    | none => (t, none)

/-- What the calls are for: each session is an object of its own. -/
def objectStep (s : List (Object DefaultSession)) :
    SessionCall → List (Object DefaultSession) × Option (Option SessionAnswer)
  | .create addr session => (s ++ [(addr, some session)], some none)
  | .query i q => (s, ((s[i]?).bind Prod.snd).map fun session => some (q.ask session))
  | .release i =>
    match s[i]? with
    | some (addr, some _) => (s.set i (addr, none), some none)
    | _ => (s, none)

end SessionCall

/-- No text has a NUL, and the variables can be counted. -/
def PortableSession (session : DefaultSession) : Prop :=
  AllNulFree [session.token, session.username, session.userId] ∧ PortableStringMap session.vars

/-- The C map of variables is where no other map is. -/
def SessionQuery.Sound (maps : MapRegistry String) : SessionQuery → Prop
  | .getVariables addr | .getVariable addr _ => addr ≠ 0 ∧ addr ∉ maps
  | _ => True

/-- A new session is where no other one is, and only sessions that are there are used. -/
def SessionCall.Sound (maps : MapRegistry String) (s : List (Object DefaultSession)) :
    SessionCall → Prop
  | .create addr session =>
    addr ≠ 0 ∧ (∀ session, (addr, some session) ∉ s) ∧ PortableSession session
  | .query i q => (∃ addr session, s[i]? = some (addr, some session)) ∧ q.Sound maps
  | .release i => ∃ addr session, s[i]? = some (addr, some session)

/-! ## The vector -/

namespace SessionVector

variable {g : SessionVector} {cSession : CSession}

theorem at?_save (hnew : g.at? cSession = none) (session : DefaultSession) (x : CSession) :
    (g.save cSession session).at? x = if x = cSession then some session else g.at? x := by
  have hsplit : (g.save cSession session).at? x =
      (g.at? x).or (if cSession == x then some session else none) := by
    rw [at?, save, List.find?_append, Option.map_or, List.find?_singleton]
    refine congrArg _ ?_
    cases cSession == x <;> rfl
  rw [hsplit]
  by_cases hx : x = cSession
  · rw [hx, hnew, beq_self_eq_true, if_pos rfl, if_pos rfl]
    rfl
  · rw [if_neg hx, beq_eq_false_iff_ne.2 (Ne.symm hx), if_neg Bool.false_ne_true, Option.or_none]

theorem at?_cons (e : CSession × DefaultSession) (g : SessionVector) (x : CSession) :
    at? (e :: g) x = if e.1 = x then some e.2 else g.at? x := by
  rw [at?, List.find?_cons]
  by_cases he : e.1 = x
  · rw [if_pos he, beq_iff_eq.2 he]
    rfl
  · rw [if_neg he, beq_eq_false_iff_ne.2 he]
    rfl

theorem at?_eq_none_iff {x : CSession} : g.at? x = none ↔ x ∉ g.map Prod.fst := by
  rw [at?, Option.map_eq_none_iff, List.find?_eq_none, List.mem_map]
  constructor
  · rintro h ⟨e, he, rfl⟩
    exact h e he (beq_self_eq_true _)
  · intro h e he hx
    exact h ⟨e, he, beq_iff_eq.1 hx⟩

theorem at?_destroy (h : (g.map Prod.fst).Nodup) (x : CSession) :
    (g.destroy cSession).at? x = if x = cSession then none else g.at? x := by
  induction g with
  | nil => exact (ite_self none).symm
  | cons e g ih =>
    obtain ⟨hfirst, hrest⟩ := List.nodup_cons.1 h
    by_cases he : e.1 = cSession
    · have hgone : destroy (e :: g) cSession = g := by
        rw [destroy, List.eraseP_cons, beq_iff_eq.2 he]
        rfl
      rw [hgone, at?_cons]
      by_cases hx : x = cSession
      · rw [if_pos hx, at?_eq_none_iff.2 (hx ▸ he ▸ hfirst)]
      · rw [if_neg hx, if_neg fun h => hx (h.symm.trans he)]
    · have hkeep : destroy (e :: g) cSession = e :: destroy g cSession := by
        rw [destroy, List.eraseP_cons, beq_eq_false_iff_ne.2 he]
        rfl
      rw [hkeep, at?_cons, at?_cons, ih hrest]
      by_cases hx : e.1 = x
      · rw [if_pos hx, if_pos hx, if_neg fun h => he (hx.trans h)]
      · rw [if_neg hx, if_neg hx]

end SessionVector

/-! ## One query -/

/-- What a wrapper keeps is what its session has. -/
structure NSessionWrapper.Caches (w : NSessionWrapper) (session : DefaultSession) : Prop where
  authToken : w.authToken.isEmpty ∨ w.authToken = session.token
  username : w.username.isEmpty ∨ w.username = session.username
  userId : w.userId.isEmpty ∨ w.userId = session.userId
  vars : w.vars.isEmpty ∨ w.vars = session.vars

section
variable {g : SessionVector} {maps : MapRegistry String} {w : NSessionWrapper}
  {session : DefaultSession}

theorem cachedText_eq (text : DefaultSession → String) {cache : String}
    (hfind : g.at? w.cSession = some session) (hfree : NulFree (text session))
    (hcache : cache.isEmpty ∨ cache = text session) :
    cachedText g text w.cSession cache = some (text session) := by
  rw [cachedText]
  split
  · rw [SessionVector.getText, hfind, Option.map_some, Option.map_some]
    exact congrArg some (CStr.text_ofString hfree)
  · next hkept => rw [hcache.resolve_left hkept]

theorem updateVariables_eq {addr : Nat} (hfind : g.at? w.cSession = some session)
    (hvars : PortableStringMap session.vars) (hcache : w.vars.isEmpty ∨ w.vars = session.vars)
    (hnull : addr ≠ 0) (hfree : addr ∉ maps) :
    updateVariables g maps addr w = some ({ w with vars := session.vars }, maps) := by
  rw [updateVariables]
  split
  · have hread : MapRegistry.toCppMap stringValue (fun _ => none)
        (maps.insert addr session.vars) addr = some session.vars := by
      rw [MapRegistry.toCppMap_eq (MapRegistry.find_insert hnull _)]
      exact readMap_eq _ (fun k hk => nulFree_key hvars.1 hk)
        (fun k v hget => CStr.text_ofString (nulFree_entry hvars.1 hget).2) hvars.2
    simp only [hfind, MapRegistry.save_eq hfree, hread, Option.bind_eq_bind, Option.bind_some, Option.pure_def,
      MapRegistry.destroy_insert hnull hfree]
  · next hkept => rw [← hcache.resolve_left hkept]

/-- A wrapper answers as its session does, leaves the maps as they are, and keeps what is right. -/
theorem SessionQuery.askWrapper_eq (q : SessionQuery) (hfind : g.at? w.cSession = some session)
    (hsession : PortableSession session) (hcaches : w.Caches session) (hq : q.Sound maps) :
    ∃ w', q.askWrapper g maps w = some (w', maps, q.ask session) ∧ w'.cSession = w.cSession ∧
      w'.Caches session := by
  obtain ⟨hauthToken, husername, huserId, hvars⟩ := hcaches
  have hfree : ∀ text ∈ [session.token, session.username, session.userId], NulFree text :=
    hsession.1
  have htoken := cachedText_eq DefaultSession.token hfind (hfree _ (by simp)) hauthToken
  have husername' := cachedText_eq DefaultSession.username hfind (hfree _ (by simp)) husername
  have huserId' := cachedText_eq DefaultSession.userId hfind (hfree _ (by simp)) huserId
  cases q with
  | getAuthToken =>
    rw [askWrapper, htoken]
    exact ⟨_, rfl, rfl, .inr rfl, husername, huserId, hvars⟩
  | getUsername =>
    rw [askWrapper, husername']
    exact ⟨_, rfl, rfl, hauthToken, .inr rfl, huserId, hvars⟩
  | getUserId =>
    rw [askWrapper, huserId']
    exact ⟨_, rfl, rfl, hauthToken, husername, .inr rfl, hvars⟩
  | isCreated =>
    rw [askWrapper, hfind]
    exact ⟨_, rfl, rfl, hauthToken, husername, huserId, hvars⟩
  | getCreateTime =>
    rw [askWrapper, hfind]
    exact ⟨_, rfl, rfl, hauthToken, husername, huserId, hvars⟩
  | getExpireTime =>
    rw [askWrapper, hfind]
    exact ⟨_, rfl, rfl, hauthToken, husername, huserId, hvars⟩
  | isExpired now =>
    rw [askWrapper, hfind]
    exact ⟨_, rfl, rfl, hauthToken, husername, huserId, hvars⟩
  | getVariables addr =>
    rw [askWrapper, updateVariables_eq hfind hsession.2 hvars hq.1 hq.2]
    exact ⟨_, rfl, rfl, hauthToken, husername, huserId, .inr rfl⟩
  | getVariable addr name =>
    rw [askWrapper, updateVariables_eq hfind hsession.2 hvars hq.1 hq.2]
    exact ⟨_, rfl, rfl, hauthToken, husername, huserId, .inr rfl⟩

end

/-! ## Programs of queries -/

/-- The vector has the sessions that are there, the maps are those of the rest of the program, and
what a wrapper keeps is right. -/
structure SessionsKept (maps : MapRegistry String) (s : List (Object DefaultSession))
    (t : WrappedSessions) : Prop where
  represents : Represents s (t.wrappers.map NSessionWrapper.cSession) t.g.at?
  addresses : (t.g.map Prod.fst).Nodup
  maps : t.maps = maps
  caches : ∀ (i addr : Nat) (session : DefaultSession) (w : NSessionWrapper),
    s[i]? = some (addr, some session) → t.wrappers[i]? = some w → w.Caches session
  portable : ∀ (i addr : Nat) (session : DefaultSession),
    s[i]? = some (addr, some session) → PortableSession session

namespace SessionsKept

variable {maps : MapRegistry String} {s : List (Object DefaultSession)} {t : WrappedSessions}
  {i addr : Nat} {session : DefaultSession}

theorem nil : SessionsKept maps [] { maps } := by
  refine ⟨.nil fun _ => rfl, List.nodup_nil, rfl, ?_, ?_⟩
  · intro i addr session w hi
    cases hi
  · intro i addr session hi
    cases hi

theorem find (h : SessionsKept maps s t) (hi : s[i]? = some (addr, some session)) :
    ∃ w, t.wrappers[i]? = some w ∧ w.cSession = addr ∧ t.g.at? addr = some session := by
  obtain ⟨hhandle, -, hfind⟩ := h.represents.find_handle hi
  rw [List.getElem?_map] at hhandle
  obtain ⟨w, hw, haddr⟩ := Option.map_eq_some_iff.1 hhandle
  exact ⟨w, hw, haddr, hfind⟩

theorem length (h : SessionsKept maps s t) : t.wrappers.length = s.length := by
  have hlength := congrArg List.length h.represents.handles
  rwa [List.length_map, List.length_map] at hlength

theorem create (h : SessionsKept maps s t) (hnull : addr ≠ 0)
    (hnew : ∀ session, (addr, some session) ∉ s) (hportable : PortableSession session) :
    SessionsKept maps (s ++ [(addr, some session)])
      { t with g := t.g.save addr session, wrappers := t.wrappers ++ [{ cSession := addr }] } := by
  have hnone := h.represents.find_new hnew
  have hlength := h.length
  have hplace : ∀ {j a : Nat} {b : DefaultSession},
      (s ++ [(addr, some session)])[j]? = some (a, some b) →
      s[j]? = some (a, some b) ∨ j = s.length ∧ b = session := by
    intro j a b hj
    rcases Nat.lt_or_ge j s.length with hlt | hge
    · rw [List.getElem?_append_left hlt] at hj
      exact .inl hj
    · rw [List.getElem?_append_right hge, List.getElem?_singleton] at hj
      split at hj
      · next h0 =>
        cases hj
        exact .inr ⟨by omega, rfl⟩
      · cases hj
  refine ⟨?_, ?_, h.maps, ?_, ?_⟩
  · rw [List.map_append, List.map_singleton]
    exact h.represents.add hnull hnew fun x => SessionVector.at?_save hnone session x
  · show ((t.g ++ [(addr, session)]).map Prod.fst).Nodup
    rw [List.map_append, List.nodup_append]
    refine ⟨h.addresses, List.nodup_singleton _, fun a ha b hb hab => ?_⟩
    obtain rfl := List.mem_singleton.1 hb
    exact SessionVector.at?_eq_none_iff.1 hnone (hab ▸ ha)
  · intro j a b w hj hw
    rcases hplace hj with hj | ⟨rfl, rfl⟩
    · have hlt := (List.getElem?_eq_some_iff.1 hj).1
      rw [List.getElem?_append_left (hlength ▸ hlt)] at hw
      exact h.caches j a b w hj hw
    · rw [← hlength, List.getElem?_concat_length, Option.some.injEq] at hw
      subst hw
      exact ⟨.inl rfl, .inl rfl, .inl rfl, .inl ExtTreeMap.isEmpty_empty⟩
  · intro j a b hj
    rcases hplace hj with hj | ⟨-, rfl⟩
    · exact h.portable j a b hj
    · exact hportable

theorem query (h : SessionsKept maps s t) (hi : s[i]? = some (addr, some session))
    {q : SessionQuery} (hq : q.Sound maps) :
    SessionsKept maps s (SessionCall.step t (.query i q)).1 ∧
      (SessionCall.step t (.query i q)).2 = some (some (q.ask session)) := by
  obtain ⟨w, hw, rfl, hfind⟩ := h.find hi
  obtain ⟨w', hask, hcSession, hcaches⟩ :=
    q.askWrapper_eq hfind (h.portable i _ _ hi) (h.caches i _ _ w hi hw) hq
  have hstep : SessionCall.step t (.query i q) =
      ({ t with maps, wrappers := t.wrappers.set i w' }, some (some (q.ask session))) := by
    rw [SessionCall.step, hw, Option.bind_some, h.maps, hask]
  rw [hstep]
  refine ⟨⟨?_, h.addresses, rfl, ?_, h.portable⟩, rfl⟩
  · have hsame : (t.wrappers.set i w').map NSessionWrapper.cSession =
        t.wrappers.map NSessionWrapper.cSession := by
      obtain ⟨hlt, heq⟩ := List.getElem?_eq_some_iff.1 hw
      rw [List.map_set, hcSession, ← heq,
        ← List.getElem_map (h := by rwa [List.length_map]) NSessionWrapper.cSession,
        List.set_getElem_self]
    rw [hsame]
    exact h.represents
  · intro j a b v hj hv
    by_cases hji : j = i
    · subst hji
      rw [List.getElem?_set_self (List.getElem?_eq_some_iff.1 hw).1] at hv
      cases hv
      cases hi.symm.trans hj
      exact hcaches
    · rw [List.getElem?_set_ne (Ne.symm hji)] at hv
      exact h.caches j a b v hj hv

theorem release (h : SessionsKept maps s t) (hi : s[i]? = some (addr, some session)) :
    SessionsKept maps (s.set i (addr, none)) { t with g := t.g.destroy addr } := by
  have hplace : ∀ {j a : Nat} {b : DefaultSession},
      (s.set i (addr, none))[j]? = some (a, some b) → s[j]? = some (a, some b) := by
    intro j a b hj
    by_cases hji : i = j
    · subst hji
      rw [List.getElem?_set_self (List.getElem?_eq_some_iff.1 hi).1] at hj
      cases hj
    · rwa [List.getElem?_set_ne hji] at hj
  refine ⟨h.represents.set hi fun x => SessionVector.at?_destroy h.addresses x, ?_, h.maps,
    fun j a b w hj hw => h.caches j a b w (hplace hj) hw, fun j a b hj => h.portable j a b (hplace hj)⟩
  exact (List.eraseP_sublist.map Prod.fst).nodup h.addresses

theorem step (h : SessionsKept maps s t) (c : SessionCall) (hc : c.Sound maps s) :
    SessionsKept maps (c.objectStep s).1 (c.step t).1 ∧ (c.step t).2 = (c.objectStep s).2 := by
  cases c with
  | create addr session => exact ⟨h.create hc.1 hc.2.1 hc.2.2, rfl⟩
  | query i q =>
    obtain ⟨⟨addr, session, hi⟩, hq⟩ := hc
    obtain ⟨hnext, hanswer⟩ := h.query hi hq
    refine ⟨hnext, ?_⟩
    rw [hanswer, SessionCall.objectStep, hi]
    rfl
  | release i =>
    obtain ⟨addr, session, hi⟩ := hc
    obtain ⟨w, hw, rfl, -⟩ := h.find hi
    simp only [SessionCall.step, SessionCall.objectStep, hw, hi, and_true]
    exact h.release hi

end SessionsKept

/-- A program that only uses sessions it has not released is answered by the wrappers, with what they
keep, as the sessions themselves would answer, and leaves `g_maps` as it was. -/
theorem sessions_refine (maps : MapRegistry String) {calls : List SessionCall}
    (h : Guarded SessionCall.objectStep (SessionCall.Sound maps) [] calls) :
    outputs SessionCall.step { maps } calls = outputs SessionCall.objectStep [] calls ∧
      (final SessionCall.step { maps } calls).maps = maps := by
  have hstep : ∀ (s : List (Object DefaultSession)) (t : WrappedSessions) (c : SessionCall),
      SessionsKept maps s t → c.Sound maps s →
      SessionsKept maps (c.objectStep s).1 (c.step t).1 ∧ (c.step t).2 = id (c.objectStep s).2 :=
    fun _ _ c hst hc => hst.step c hc
  refine ⟨?_, (final_of_guarded (fun s t c hst hc => (hstep s t c hst hc).1) h .nil).maps⟩
  rw [outputs_of_guarded hstep h .nil, List.map_id]

/-- The second session is where the first one was, and its variables where those of the first. -/
def reusedSession : List SessionCall :=
  [.create 8 ⟨"a.b.c", true, 1, 2, "tom", "u1", (∅ : NStringMap).insert "mode" "ffa"⟩,
    .query 0 .getUsername, .query 0 (.getVariable 16 "mode"), .release 0,
    .create 8 ⟨"d.e.f", false, 3, 4, "ann", "u2", ∅⟩,
    .query 1 .getUsername, .query 1 (.getVariable 16 "mode"), .query 1 (.isExpired 5)]

theorem sessions_refine_reusedSession :
    outputs SessionCall.step { maps := ∅ } reusedSession =
      outputs SessionCall.objectStep [] reusedSession ∧
      (final SessionCall.step { maps := ∅ } reusedSession).maps = ∅ := by
  have hvars : PortableStringMap ((∅ : NStringMap).insert "mode" "ffa") := by
    refine ⟨?_, ?_⟩
    · decide
    · decide
  refine sessions_refine ∅ ⟨⟨by decide, fun _ => List.not_mem_nil, by decide, hvars⟩,
    ⟨⟨8, _, rfl⟩, trivial⟩, ⟨⟨8, _, rfl⟩, by decide, ExtTreeMap.not_mem_empty⟩, ⟨8, _, rfl⟩,
    ⟨by decide, fun session h => ?_, by decide, ⟨by decide, by decide⟩⟩,
    ⟨⟨8, _, rfl⟩, trivial⟩, ⟨⟨8, _, rfl⟩, by decide, ExtTreeMap.not_mem_empty⟩,
    ⟨⟨8, _, rfl⟩, trivial⟩, trivial⟩
  obtain ⟨-, hgone⟩ := Prod.mk.inj (List.mem_singleton.1 h)
  cases hgone

end NakamaCpp.CApi
