import NakamaCpp.CApi.WrappedClient
import NakamaCpp.Lib.Lockstep

/-!
# The wrapper is the client

A program that does what `ClientAct.Sound` allows sees the same through `NClientWrapper` as with the
client itself, whether that is `RestClient` or `GrpcClient`: the operations that go to the server,
the callbacks, the data and errors that they are given, the sessions and what these answer.

    Guarded (direct step) (Sound) {} acts  →
      outputs (wrapped step) .. acts = outputs (direct step) {} acts            (wrapper_refines)
-/

namespace NakamaCpp.CApi

open Rest CInterop Dispatch Handles Lockstep Std

/-! ## What crosses -/

/-- What C keeps comes back, whatever a cursor holds that nobody has assigned. -/
theorem CallbackType.roundTrip_eq {type : CallbackType} {x : type.Cpp} (h : type.Portable x)
    (hkept : type.Kept x) (garbage : Option CStr) : type.roundTrip garbage x = some x := by
  cases type with
  | account => exact congrArg some ((NAccount.assign_assign_iff h).2 hkept)
  | matchData => exact congrArg some ((NMatchData.assign_assign_iff h).2 hkept)
  | storageObjectList => exact hkept.elim
  | error => exact assignNError_assign h
  | users => exact congrArg some (NUsers.assign_assign h)
  | friendList => exact congrArg some (NFriendList.assign_assign h)
  | group => exact congrArg some (NGroup.assign_assign h)
  | groupList => exact congrArg some (NGroupList.assign_assign h)
  | groupUserList => exact congrArg some (NGroupUserList.assign_assign h)
  | userGroupList => exact congrArg some (NUserGroupList.assign_assign h)
  | leaderboardRecord => exact congrArg some (NLeaderboardRecord.assign_assign h)
  | leaderboardRecordList => exact congrArg some (NLeaderboardRecordList.assign_assign h)
  | tournamentList => exact congrArg some (NTournamentList.assign_assign h)
  | tournamentRecordList => exact congrArg some (NTournamentRecordList.assign_assign h)
  | matchList => exact congrArg some (NMatchList.assign_assign h)
  | notificationList => exact congrArg some (NNotificationList.assign_assign h)
  | channelMessageList => exact congrArg some (NChannelMessageList.assign_assign h)
  | storageObjects => exact congrArg some (h.map_toList_alloc fun _ => NStorageObject.assign_assign)
  | storageObjectAcks =>
    exact congrArg some (h.map_toList_alloc fun _ => NStorageObjectAck.assign_assign)
  | rpc => exact congrArg some (NRpc.assign_assign h)
  | rtError => exact assignNRtError_assign h
  | disconnectInfo => exact congrArg some (assignNRtClientDisconnectInfo_assign h)
  | channel => exact congrArg some (NChannel.assign_assign h)
  | channelMessageAck => exact congrArg some (NChannelMessageAck.assign_assign h)
  | match_ => exact congrArg some (NMatch.assign_assign h)
  | matchmakerTicket => exact congrArg some (NMatchmakerTicket.assign_assign h)
  | status => exact congrArg some (NStatus.assign_assign h)
  | channelMessage => exact congrArg some (NChannelMessage.assign_assign h)
  | channelPresenceEvent => exact congrArg some (NChannelPresenceEvent.assign_assign h)
  | matchPresenceEvent => exact congrArg some (NMatchPresenceEvent.assign_assign h)
  | matchmakerMatched => exact NMatchmakerMatched.assign_assign h
  | statusPresenceEvent => exact congrArg some (NStatusPresenceEvent.assign_assign h)
  | streamData => exact congrArg some (NStreamData.assign_assign h)
  | streamPresenceEvent => exact congrArg some (NStreamPresenceEvent.assign_assign h)

theorem SessionVector.getSession_sessions {g : SessionVector} {cSession : CSession}
    {session : DefaultSession} (h : g.at? cSession = some session) :
    getSession g.sessions cSession = some ⟨session.token, session.userId⟩ := by
  obtain ⟨e, he, rfl⟩ := Option.map_eq_some_iff.1 h
  have hfind : g.sessions.find? (fun e => e.1 == cSession) =
      (g.find? fun e => e.1 == cSession).map fun e => (e.1, ⟨e.2.token, e.2.userId⟩) := by
    rw [SessionVector.sessions, List.find?_map]
    rfl
  rw [getSession, hfind, he]
  rfl

theorem responseType_of_not_authenticates {op : ClientOp} (h : op.authenticates = false) :
    op.responseType ≠ some .Session := by
  cases op <;> simp_all [ClientOp.authenticates, ClientOp.responseType]

/-! ## A completion -/

namespace IdState

variable {s : IdState} {q : Nat} {a : Asked}

/-- Request `q` has not completed, and its callback does not run. -/
def Waits (s : IdState) (q : Nat) : Prop :=
  (∃ r ∈ s.wrapper.outstanding, r.number = q) ∧ ∀ p ∈ s.wrapper.running, p.1.number ≠ q

/-- A completion finds the callback that the request has. -/
theorem complete_eq (hi : Inv s) (hq : s.Waits q) (ha : s.asked[q]? = some a) (ok : Bool) :
    ∃ r, r.number = q ∧ s.wrapper.outstanding.find? (fun r => r.number == q) = some r ∧
      s.wrapper.tables.dispatched (handlerTable a.op ok) r.id =
        (if a.callback ok then some q else none) ∧
      s.step (.complete q ok) = some (s.completed r a ok (a.callback ok)) := by
  obtain ⟨⟨r₀, hr₀, rfl⟩, hidle⟩ := hq
  obtain ⟨s', hs⟩ := Option.isSome_iff_exists.1 (hi.correlated.completes r₀ hr₀ hidle ok)
  obtain ⟨r, a', hfind, hn, ha', -, rfl⟩ := hi.step_complete hs
  obtain rfl := Option.some.inj (ha.symm.trans ha')
  have hr := List.mem_of_find?_eq_some hfind
  exact ⟨r, hn, hfind, hn ▸ hi.dispatched_eq hr (hn ▸ ha) ok, hs⟩

theorem completed_inv (hi : Inv s) {ok called : Bool} {r : WrapperRequest ClientMap}
    (h : s.step (.complete q ok) = some (s.completed r a ok called)) :
    Inv (s.completed r a ok called) := by
  have hok : s.fewIds (.complete q ok) := trivial
  exact hi.step hok h

theorem completed_asked (r : WrapperRequest ClientMap) (ok called : Bool) :
    (s.completed r a ok called).asked = s.asked := by
  cases called <;> rfl

theorem running_completed (r : WrapperRequest ClientMap) (ok called : Bool) :
    (s.completed r a ok called).wrapper.running.length =
      s.wrapper.running.length + if called then 1 else 0 := by
  cases called <;> rfl

/-- The other requests go on waiting. -/
theorem Waits.completed {q' : Nat} (h : s.Waits q') {r : WrapperRequest ClientMap}
    (hne : r.number ≠ q') (ok called : Bool) : (s.completed r a ok called).Waits q' := by
  obtain ⟨⟨r', hr', hn'⟩, hidle⟩ := h
  cases called with
  | true =>
    refine ⟨⟨r', hr', hn'⟩, fun p hp => ?_⟩
    rcases List.mem_cons.1 hp with rfl | hp
    · exact hne
    · exact hidle p hp
  | false =>
    refine ⟨⟨r', List.mem_filter.2 ⟨hr', ?_⟩, hn'⟩, hidle⟩
    rw [bne_iff_ne, hn']
    exact hne.symm

end IdState

/-! ## The two clients -/

/-- The request, as the tables of the wrapper know it. -/
def askedOf (r : ClientRequest) : Asked := ⟨r.op, r.successCallback, r.errorCallback⟩

section
variable {lib : ApiLib} {γ ρ : Type}

/-- The wrapped client is where the direct one is, each request that is under way there has its
closures here, and the sessions are kept. -/
structure ClientsLinked (b : Backend lib γ ρ) (maps : MapRegistry String) (d : DirectClient γ ρ)
    (w : WrappedClient γ ρ) : Prop where
  alike : Alike d.client w.client
  inv : State.Inv b.client d.client
  wrappedInv : State.Inv b.client w.client
  requests : w.client.requests = d.client.requests.map NClientWrapper.wrappedRequest
  asked : w.ids.asked = d.client.requests.map askedOf
  wanted : ∀ r ∈ d.client.requests, r.op.authenticates = true → r.successCallback = true
  ids : w.ids.Inv
  waiting : ∀ c ∈ d.client.outstanding, w.ids.Waits c.request
  frames : w.frames.length = d.client.stack.length
  running : w.ids.wrapper.running.length = w.frames.count true
  fallback : d.client.fallback = w.defaultErrorCallback
  wrappedFallback : w.defaultErrorCallback = true → w.client.fallback = true
  sessions : SessionsKept maps d.sessions w.sessions

variable {b : Backend lib γ ρ} {maps : MapRegistry String} {d : DirectClient γ ρ}
  {w : WrappedClient γ ρ}

/-- An act keeps both clients linked, and is seen alike. -/
def InStep (b : Backend lib γ ρ) (maps : MapRegistry String) (d : DirectClient γ ρ)
    (w : WrappedClient γ ρ) (a : ClientAct ρ) : Prop :=
  ClientsLinked b maps (d.step b a).1 (w.step b a).1 ∧ (w.step b a).2 = (d.step b a).2

theorem InStep.of_eq {a : ClientAct ρ} {d' : DirectClient γ ρ} {seen : Option ClientSeen}
    (hd : d.step b a = (d', seen)) (w' : WrappedClient γ ρ) (hw : w.step b a = (w', seen))
    (h : ClientsLinked b maps d' w') : InStep b maps d w a := by
  rw [InStep, hd, hw]
  exact ⟨h, rfl⟩

/-- An act that neither can do. -/
theorem InStep.stuck {a : ClientAct ρ} (h : ClientsLinked b maps d w)
    (hd : d.step b a = (d, none)) (hw : w.step b a = (w, none)) : InStep b maps d w a :=
  .of_eq hd w hw h

namespace ClientsLinked

theorem setErrorCallback (h : ClientsLinked b maps d w) (set : Bool) :
    InStep b maps d w (.setErrorCallback set) := by
  have haborted := h.alike.aborted
  cases ha : d.client.aborted with
  | true =>
    refine .stuck h ?_ ?_
    · simp only [DirectClient.step, State.step_aborted ha]
    · simp only [WrappedClient.step, State.step_aborted (haborted.trans ha)]
  | false =>
    have hd : d.step b (.setErrorCallback set) =
        ({ d with client := { d.client with fallback := set } }, some .done) := by
      simp only [DirectClient.step, State.step_setFallback ha]
    refine .of_eq hd
      { w with client := { w.client with fallback := true }, defaultErrorCallback := set } ?_ ?_
    · simp only [WrappedClient.step, State.step_setFallback (haborted.trans ha)]
    · exact { h with
        alike := h.alike.setFallback set true
        inv := { h.inv with }
        wrappedInv := { h.wrappedInv with }
        fallback := rfl
        wrappedFallback := fun _ => rfl }

/-! ### Requests -/

/-- The wrapped client receives the operation. -/
theorem received (h : ClientsLinked b maps d w) {i : Option Nat} {r : ClientRequest}
    (hr : ClientRequest.Sound d i r) :
    received w.sessions.g.sessions
      (((i.bind fun i => w.sessions.wrappers[i]?).map NSessionWrapper.cSession).getD 0) r.op =
      some r.op := by
  rw [received_eq hr.portable, crossed_eq_iff.2 hr.intact]
  intro session hsession
  obtain ⟨j, addr, s, rfl, hj, rfl⟩ := hr.session session hsession
  obtain ⟨w', hw', rfl, hfind⟩ := h.sessions.find hj
  rw [Option.bind_some, hw']
  exact SessionVector.getSession_sessions hfind

theorem waits_request {ids : IdState} (hi : ids.Inv) {a : Asked} {q : Nat}
    (h : ids.Waits q ∨ q = ids.asked.length) : (ids.request a).Waits q := by
  rcases h with ⟨⟨r, hr, hn⟩, hidle⟩ | rfl
  · exact ⟨⟨r, List.mem_append_left _ hr, hn⟩, hidle⟩
  · refine ⟨⟨ids.newRequest a, List.mem_append_right _ List.mem_cons_self, hi.requests⟩, ?_⟩
    intro p hp he
    obtain ⟨a', ha', -⟩ := hi.ids p.1 (hi.running p hp)
    rw [he, List.getElem?_length] at ha'
    cases ha'

theorem isSome_fill_of_intact {r : ClientRequest} (h : CrossesIntact r.op) :
    (b.client.fill r).isSome = true := by
  have hsession : r.op.noSession = false := by
    cases hop : r.op <;> first | rfl | (rw [hop] at h; exact h.elim)
  rw [b.fill, hsession]
  rfl

theorem request (h : ClientsLinked b maps d w) {i : Option Nat} {r : ClientRequest}
    (hr : ClientRequest.Sound d i r) (addr : Nat) (kept : Bool) :
    InStep b maps d w (.request i r addr kept) := by
  have hreceived := h.received hr
  have haborted := h.alike.aborted
  have haddrs := h.alike.addrs
  have hids : w.ids.step (.request r.op r.successCallback r.errorCallback) =
      some (w.ids.request (askedOf r)) := rfl
  have hfill : (b.client.fill r).isSome = true := isSome_fill_of_intact hr.intact
  have hfill' : (b.client.fill (NClientWrapper.wrappedRequest r)).isSome = true :=
    isSome_fill_of_intact hr.intact
  have hlength : w.ids.asked.length = d.client.requests.length := by
    rw [h.asked, List.length_map]
  cases ha : d.client.aborted with
  | true =>
    refine .stuck h ?_ ?_
    · simp only [DirectClient.step, State.step_aborted ha]
    · simp only [WrappedClient.step, hreceived, State.step_aborted (haborted.trans ha)]
  | false =>
    by_cases haddr : addr ∈ d.client.contexts.map Context.addr
    · refine .stuck h ?_ ?_
      · simp only [DirectClient.step, State.step_request ha, if_pos haddr]
      · simp only [WrappedClient.step, hreceived, State.step_request (haborted.trans ha), haddrs,
          if_pos haddr]
    · have hstep : w.client.step b.client (.request (NClientWrapper.wrappedRequest r) addr kept) =
          some (w.client.request b.client (NClientWrapper.wrappedRequest r) addr kept) := by
        rw [State.step_request (haborted.trans ha), haddrs, if_neg haddr]
      have hfew : w.ids.fewIds (.request r.op r.successCallback r.errorCallback) := by
        refine IdState.fewIds_of_fewRequests _ _ ?_
        rw [IdState.fewRequests, hlength]
        exact hr.few
      have hd : d.step b (.request i r addr kept) =
          ({ d with client := d.client.request b.client r addr kept }, some (.sent r.op)) := by
        simp only [DirectClient.step, State.step_request ha, if_neg haddr, if_pos hfill]
      refine .of_eq hd
        { w with
          client := w.client.request b.client (NClientWrapper.wrappedRequest r) addr kept
          ids := w.ids.request (askedOf r) } ?_ ?_
      · have hwrapped : { NClientWrapper.wrappedRequest r with op := r.op } =
            NClientWrapper.wrappedRequest r := rfl
        simp only [WrappedClient.step, hreceived, hwrapped, hstep, hids]
      · obtain ⟨data, hdata⟩ := Option.isSome_iff_exists.1 hfill
        obtain ⟨data', hdata'⟩ := Option.isSome_iff_exists.1 hfill'
        have halike := h.alike.request hfill hfill' addr kept
        have hinv := h.inv.request ha r kept haddr
        have hinv' := h.wrappedInv.request (haborted.trans ha) (NClientWrapper.wrappedRequest r) kept
          (haddrs ▸ haddr)
        rw [State.request_eq hdata, State.request_eq hdata'] at halike
        rw [State.request_eq hdata] at hinv ⊢
        rw [State.request_eq hdata'] at hinv' ⊢
        refine ⟨halike, hinv, hinv', ?_, ?_, ?_, h.ids.request fun hdraws => hfew hdraws, ?_, h.frames,
          h.running, h.fallback, h.wrappedFallback, h.sessions⟩
        · rw [List.map_append, h.requests]
          rfl
        · show w.ids.asked ++ [askedOf r] = _
          rw [List.map_append, h.asked]
          rfl
        · intro r' hr'
          rcases List.mem_append.1 hr' with hr' | hr'
          · exact h.wanted r' hr'
          · obtain rfl := List.mem_singleton.1 hr'
            exact hr.wanted
        · intro c hc
          rcases List.mem_append.1 hc with hc | hc
          · exact waits_request h.ids (.inl (h.waiting c hc))
          · refine waits_request h.ids (.inr ?_)
            rw [hlength]
            split at hc
            · rw [List.mem_singleton.1 hc]
            · cases hc

/-! ### Answers -/

theorem request_ne_of_mem_erase {l : List Closure} (h : (l.map Closure.request).Nodup)
    {c c' : Closure} (hc : c ∈ l) (hc' : c' ∈ l.erase c) : c'.request ≠ c.request := by
  intro he
  have hmem := List.mem_of_mem_erase hc'
  obtain rfl := List.inj_on_of_nodup_map h hmem hc he
  exact (List.Nodup.mem_erase_iff h.of_map).1 hc' |>.1 rfl

/-- An answer has been taken on both sides, and the wrapper has completed its request. -/
theorem taken (h : ClientsLinked b maps d w) {c : Closure} (hc : c ∈ d.client.outstanding)
    {client wrapped : State ClientRequest γ ρ ApiCall} (halike : Alike client wrapped)
    (hinv : State.Inv b.client client) (hinv' : State.Inv b.client wrapped)
    (ht : Taken d.client client c) (ht' : Taken w.client wrapped c) {ids : IdState}
    (hids : ids.Inv) (hasked : ids.asked = w.ids.asked)
    (hwaits : ∀ q, q ≠ c.request → w.ids.Waits q → ids.Waits q) {frames : List Bool}
    (hframes : frames.length = client.stack.length)
    (hrunning : ids.wrapper.running.length = frames.count true)
    {sessions : List (Object DefaultSession)} {wrappedSessions : WrappedSessions}
    (hk : SessionsKept maps sessions wrappedSessions) :
    ClientsLinked b maps { client, sessions }
      { w with client := wrapped, ids, sessions := wrappedSessions, frames } where
  alike := halike
  inv := hinv
  wrappedInv := hinv'
  requests := by
    show wrapped.requests = client.requests.map _
    rw [ht'.requests, ht.requests, h.requests]
  asked := by
    show ids.asked = client.requests.map _
    rw [hasked, ht.requests, h.asked]
  wanted r hr := h.wanted r (ht.requests ▸ hr)
  ids := hids
  waiting c' hc' := by
    have hc' : c' ∈ d.client.outstanding.erase c := ht.outstanding ▸ hc'
    exact hwaits _ (request_ne_of_mem_erase h.inv.heldOnce hc hc')
      (h.waiting c' (List.mem_of_mem_erase hc'))
  frames := hframes
  running := hrunning
  fallback := ht.fallback.trans h.fallback
  wrappedFallback hd := ht'.fallback.trans (h.wrappedFallback hd)
  sessions := hk

section
variable {c : Closure} {answer : ρ} {addr : CSession} {garbage : Option CStr}

/-- Both die of the answer. -/
theorem dies (h : ClientsLinked b maps d w) (ha : d.client.aborted = false)
    (hc : c ∈ d.client.outstanding) (hcalls : (d.client.outcome b.client c answer).calls = none)
    (hcalls' : (w.client.outcome b.client c answer).calls = none) :
    InStep b maps d w (.respond c answer addr garbage) := by
  have ha' := h.alike.aborted.trans ha
  have hc' : c ∈ w.client.outstanding := h.alike.outstanding ▸ hc
  have hd : d.step b (.respond c answer addr garbage) =
      ({ d with client := d.client.respond b.client c answer }, some .died) := by
    simp only [DirectClient.step, State.step_respond ha, if_pos hc, hcalls]
  refine .of_eq hd { w with client := w.client.respond b.client c answer } ?_ ?_
  · simp only [WrappedClient.step, State.step_respond ha', if_pos hc', hcalls']
  · have hstack : (d.client.respond b.client c answer).stack = d.client.stack := by
      rw [State.respond_died hcalls]
      rfl
    exact h.taken hc (h.alike.dies hcalls hcalls') (h.inv.respond ha hc answer)
      (h.wrappedInv.respond ha' hc' answer) (taken_respond ..) (taken_respond ..) h.ids rfl
      (fun _ _ hq => hq) (hstack ▸ h.frames) h.running h.sessions

/-- The program has no callback; the wrapped client calls one that finds none. -/
theorem silent (h : ClientsLinked b maps d w) (ha : d.client.aborted = false)
    (hc : c ∈ d.client.outstanding) {r : ClientRequest}
    (hr : d.client.requests[c.request]? = some r) {calls : List ApiCall}
    (hcalls : (d.client.outcome b.client c answer).calls = some [])
    (hcalls' : (w.client.outcome b.client c answer).calls = some calls)
    (hdeliver : w.deliverAll addr garbage calls = some (w.sessions, []))
    (hnone : (askedOf r).callback (calls.any WrappedClient.isSuccess) = false) :
    InStep b maps d w (.respond c answer addr garbage) := by
  have ha' := h.alike.aborted.trans ha
  have hc' : c ∈ w.client.outstanding := h.alike.outstanding ▸ hc
  have hasked : w.ids.asked[c.request]? = some (askedOf r) := by
    rw [h.asked, List.getElem?_map, hr]
    rfl
  obtain ⟨wr, hn, -, -, hids⟩ := IdState.complete_eq h.ids (h.waiting c hc) hasked
    (calls.any WrappedClient.isSuccess)
  rw [hnone] at hids
  have hd : d.step b (.respond c answer addr garbage) =
      ({ d with client := d.client.respond b.client c answer }, some (.calls [])) := by
    simp only [DirectClient.step, State.step_respond ha, if_pos hc, hcalls, DirectClient.handAll]
  -- the wrapped client is back at once
  have hback : WrappedClient.back b (w.client.respond b.client c answer) calls =
        some ((w.client.noted b.client c answer).leave (some c)) ∧
      Alike (d.client.respond b.client c answer) ((w.client.noted b.client c answer).leave (some c)) := by
    cases calls with
    | nil =>
      have halike := h.alike.ignored h.inv h.wrappedInv hc hcalls hcalls'
      rw [h.wrappedInv.respond_nil hc' hcalls'] at halike ⊢
      exact ⟨rfl, halike⟩
    | cons call calls => exact h.alike.hushed h.inv h.wrappedInv hc ha hcalls hcalls'
  have hinv' : State.Inv b.client ((w.client.noted b.client c answer).leave (some c)) := by
    have hrespond := h.wrappedInv.respond ha' hc' answer
    cases calls with
    | nil => rwa [h.wrappedInv.respond_nil hc' hcalls'] at hrespond
    | cons call calls =>
      have hreturns : (w.client.respond b.client c answer).step b.client .returns = _ := hback.1
      exact hrespond.step hreturns
  refine .of_eq hd
    { w with
      client := (w.client.noted b.client c answer).leave (some c)
      ids := w.ids.completed wr (askedOf r) (calls.any WrappedClient.isSuccess) false } ?_ ?_
  · simp only [WrappedClient.step, State.step_respond ha', if_pos hc', hcalls',
      WrappedClient.answered, hdeliver, hids, Option.bind_eq_bind, Option.bind_some,
      List.isEmpty_nil, if_true, hback.1, Option.pure_def]
  · have hstack : (d.client.respond b.client c answer).stack = d.client.stack := by
      rw [h.inv.respond_nil hc hcalls]
      rfl
    exact h.taken hc hback.2 (h.inv.respond ha hc answer) hinv' (taken_respond ..)
      (taken_noted ..) (IdState.completed_inv h.ids hids) (IdState.completed_asked ..)
      (fun q hq hw => hw.completed (hn ▸ hq.symm) _ _) (hstack ▸ h.frames) h.running h.sessions

/-- The program has a callback, and both call it. -/
theorem called (h : ClientsLinked b maps d w) (ha : d.client.aborted = false)
    (hc : c ∈ d.client.outstanding) {r : ClientRequest}
    (hr : d.client.requests[c.request]? = some r) {call call' : ApiCall}
    (hcalls : (d.client.outcome b.client c answer).calls = some [call])
    (hcalls' : (w.client.outcome b.client c answer).calls = some [call'])
    {sessions : List (Object DefaultSession)} {wrappedSessions : WrappedSessions}
    {seen : CalledBack} (hhand : DirectClient.hand d.sessions addr call = (sessions, seen))
    (hdeliver : w.deliver addr garbage call' = some (wrappedSessions, [seen]))
    (hk : SessionsKept maps sessions wrappedSessions)
    (hsome : (askedOf r).callback (WrappedClient.isSuccess call') =
      WrappedClient.ofRequest call') :
    InStep b maps d w (.respond c answer addr garbage) := by
  have ha' := h.alike.aborted.trans ha
  have hc' : c ∈ w.client.outstanding := h.alike.outstanding ▸ hc
  have hasked : w.ids.asked[c.request]? = some (askedOf r) := by
    rw [h.asked, List.getElem?_map, hr]
    rfl
  obtain ⟨wr, hn, -, -, hids⟩ := IdState.complete_eq h.ids (h.waiting c hc) hasked
    (WrappedClient.isSuccess call')
  rw [hsome] at hids
  have hany : [call'].any WrappedClient.isSuccess = WrappedClient.isSuccess call' := by simp
  have hany' : [call'].any WrappedClient.ofRequest = WrappedClient.ofRequest call' := by simp
  have hd : d.step b (.respond c answer addr garbage) =
      (⟨d.client.respond b.client c answer, sessions⟩, some (.calls [seen])) := by
    simp only [DirectClient.step, State.step_respond ha, if_pos hc, hcalls, DirectClient.handAll,
      hhand]
  refine .of_eq hd
    { w with
      client := w.client.respond b.client c answer
      ids := w.ids.completed wr (askedOf r) (WrappedClient.isSuccess call') (WrappedClient.ofRequest call')
      sessions := wrappedSessions
      frames := WrappedClient.ofRequest call' :: w.frames } ?_ ?_
  · simp only [WrappedClient.step, State.step_respond ha', if_pos hc', hcalls',
      WrappedClient.answered, WrappedClient.deliverAll, hdeliver, hany, hany', hids,
      Option.bind_eq_bind, Option.bind_some, Option.pure_def, List.append_nil, List.isEmpty_cons,
      Bool.false_eq_true, if_false]
  · have hstack : (d.client.respond b.client c answer).stack = some c :: d.client.stack := by
      rw [h.inv.respond_cons hc hcalls]
    refine h.taken hc (h.alike.called h.inv h.wrappedInv hc hcalls hcalls')
      (h.inv.respond ha hc answer) (h.wrappedInv.respond ha' hc' answer) (taken_respond ..)
      (taken_respond ..) (IdState.completed_inv h.ids hids) (IdState.completed_asked ..)
      (fun q hq hw => hw.completed (hn ▸ hq.symm) _ _) ?_ ?_ hk
    · rw [hstack, List.length_cons, List.length_cons, h.frames]
    · rw [IdState.running_completed, h.running, List.count_cons]
      cases WrappedClient.ofRequest call' <;> rfl

/-- A C callback finds the callback that the request has. -/
theorem callback_eq (h : ClientsLinked b maps d w) (hc : c ∈ d.client.outstanding)
    {r : ClientRequest} (hr : d.client.requests[c.request]? = some r) (ok : Bool) :
    w.callback c.request ok = if (askedOf r).callback ok then some c.request else none := by
  have hasked : w.ids.asked[c.request]? = some (askedOf r) := by
    rw [h.asked, List.getElem?_map, hr]
    rfl
  obtain ⟨wr, -, hfind, hdispatched, -⟩ := IdState.complete_eq h.ids (h.waiting c hc) hasked ok
  simp only [WrappedClient.callback, hfind, hasked, Option.bind_eq_bind, Option.bind_some]
  exact hdispatched

theorem assignNError_of_portable {error : NError} (h : PortableNError error) :
    assignNError (.assign error) = some error := assignNError_assign h

/-- A request has failed. -/
theorem fails (h : ClientsLinked b maps d w) (ha : d.client.aborted = false)
    (hc : c ∈ d.client.outstanding) {r : ClientRequest}
    (hr : d.client.requests[c.request]? = some r) {error : NError}
    (hcalls : (d.client.outcome b.client c answer).calls =
      some (failWith (Rest.reqError (own c.request r.errorCallback) d.client.fallback error)))
    (hcalls' : (w.client.outcome b.client c answer).calls =
      some (failWith (Rest.reqError (own c.request (NClientWrapper.wrappedRequest r).errorCallback)
        w.client.fallback error)))
    (hheard : Verdict.Plain.heard r d.client.fallback)
    (hcross : ∀ call ∈ failWith
      (Rest.reqError (own c.request r.errorCallback) d.client.fallback error),
      ApiCall.Crosses d.sessions addr call) :
    InStep b maps d w (.respond c answer addr garbage) := by
  have hcallback : w.callback c.request false =
      if r.errorCallback then some c.request else none := h.callback_eq hc hr false
  by_cases herror : r.errorCallback = true
  · -- its own callback, which the handler finds
    have herror' : (NClientWrapper.wrappedRequest r).errorCallback = true := by
      by_cases hop : ∃ session, r.op = .getAccount session
      · obtain ⟨session, hop⟩ := hop
        rw [NClientWrapper.wrappedRequest_getAccount hop]
        exact herror
      · exact NClientWrapper.wrappedRequest_errorCallback hop
    rw [herror] at hcalls hcross
    rw [herror'] at hcalls'
    have hportable : PortableNError error := hcross _ List.mem_cons_self
    have hfound : w.callback c.request false = some c.request := by
      rw [hcallback, if_pos herror]
    refine h.called ha hc hr hcalls hcalls' rfl ?_ h.sessions herror
    simp only [WrappedClient.deliver, hfound, assignNError_of_portable hportable, Option.map_some]
  · have hnone : (askedOf r).callback false = false := Bool.not_eq_true _ ▸ herror
    have hfound : w.callback c.request false = none := by
      rw [hcallback, if_neg herror]
    rw [Bool.not_eq_true] at herror
    rw [herror] at hcalls hcross
    by_cases hop : ∃ session, r.op = .getAccount session
    · -- the wrapped client knows that there is none
      obtain ⟨session, hop⟩ := hop
      have herror' : (NClientWrapper.wrappedRequest r).errorCallback = false := by
        rw [NClientWrapper.wrappedRequest_getAccount hop]
        exact herror
      rw [herror'] at hcalls'
      cases hfallback : d.client.fallback with
      | true =>
        have hdefault : w.defaultErrorCallback = true := h.fallback ▸ hfallback
        rw [hfallback] at hcalls hcross
        rw [h.wrappedFallback hdefault] at hcalls'
        have hportable : PortableNError error := hcross _ List.mem_cons_self
        refine h.called ha hc hr hcalls hcalls' rfl ?_ h.sessions hnone
        simp only [WrappedClient.deliver, hdefault, assignNError_of_portable hportable,
          Option.map_some, if_true]
      | false =>
        have hdefault : w.defaultErrorCallback = false := h.fallback ▸ hfallback
        rw [hfallback] at hcalls
        refine h.silent ha hc hr hcalls hcalls' ?_ ?_
        · cases w.client.fallback with
          | true =>
            simp [own, Rest.reqError, failWith, WrappedClient.deliverAll, WrappedClient.deliver,
              hdefault]
          | false => rfl
        · cases w.client.fallback <;> exact hnone
    · -- it takes the handler for a callback, which finds none
      have herror' := NClientWrapper.wrappedRequest_errorCallback hop
      have hfallback : d.client.fallback = false := by
        rcases hheard with hh | hh | hh
        · rw [herror] at hh
          cases hh
        · exact absurd hh hop
        · exact hh
      rw [hfallback] at hcalls
      rw [herror'] at hcalls'
      refine h.silent ha hc hr hcalls hcalls' ?_ hnone
      simp [own, Rest.reqError, failWith, WrappedClient.deliverAll, WrappedClient.deliver, hfound]

/-- A success is one call, unless the session cannot be built. -/
theorem succeed_cases (json : JsonLib) (now : UInt64) (q : Nat) (data : Option ResponseData) :
    succeed json now q data = none ∨
      ∃ result, succeed json now q data = some [⟨.success q, some result⟩] := by
  cases data with
  | none => exact .inr ⟨_, rfl⟩
  | some data =>
    obtain ⟨type, data⟩ := data
    rw [succeed]
    cases type.given json now data with
    | none => exact .inl rfl
    | some result => exact .inr ⟨result, rfl⟩

/-- Nothing but an authentication makes a session, or fails to. -/
theorem succeed_of_not_session (json : JsonLib) (now : UInt64) (q : Nat)
    {data : Option ResponseData} (h : data.map Sigma.fst ≠ some .Session) :
    succeed json now q data = some [⟨.success q, some .empty⟩] ∨
      ∃ type x, succeed json now q data = some [⟨.success q, some (.data type x)⟩] := by
  cases data with
  | none => exact .inl rfl
  | some data =>
    obtain ⟨type, data⟩ := data
    right
    cases type
    case Session => exact absurd rfl h
    all_goals exact ⟨_, _, rfl⟩

/-- A request has succeeded. -/
theorem succeeds (h : ClientsLinked b maps d w) (ha : d.client.aborted = false)
    (hc : c ∈ d.client.outstanding) {r : ClientRequest}
    (hr : d.client.requests[c.request]? = some r) {now : UInt64} {data : Option ResponseData}
    (htype : data.map Sigma.fst = r.op.responseType)
    (hcalls : (d.client.outcome b.client c answer).calls =
      if r.successCallback then succeed lib.json now c.request data else some [])
    (hcalls' : (w.client.outcome b.client c answer).calls = succeed lib.json now c.request data)
    (hcross : ∀ calls, (d.client.outcome b.client c answer).calls = some calls →
      ∀ call ∈ calls, ApiCall.Crosses d.sessions addr call) :
    InStep b maps d w (.respond c answer addr garbage) := by
  have hcallback : w.callback c.request true =
      if r.successCallback then some c.request else none := h.callback_eq hc hr true
  by_cases hsuccess : r.successCallback = true
  · rw [if_pos hsuccess] at hcalls hcallback
    rcases succeed_cases lib.json now c.request data with hsucceed | ⟨result, hsucceed⟩
    · exact h.dies ha hc (hcalls.trans hsucceed) (hcalls'.trans hsucceed)
    · rw [hsucceed] at hcalls hcalls'
      have hkept := hcross _ hcalls _ List.mem_cons_self
      cases result with
      | session session =>
        refine h.called ha hc hr hcalls hcalls' rfl ?_
          (h.sessions.create hkept.1 hkept.2.1 hkept.2.2) hsuccess
        simp only [WrappedClient.deliver, hcallback, h.sessions.length]
      | data type x =>
        refine h.called ha hc hr hcalls hcalls' rfl ?_ h.sessions hsuccess
        simp only [WrappedClient.deliver, hcallback,
          CallbackType.roundTrip_eq hkept.1 hkept.2 garbage, Option.map_some]
      | empty =>
        refine h.called ha hc hr hcalls hcalls' rfl ?_ h.sessions hsuccess
        simp only [WrappedClient.deliver, hcallback, Option.toList_some, List.map_singleton]
  · -- nobody has asked for a session, and the handler finds no callback
    rw [if_neg hsuccess] at hcalls hcallback
    have hnot : r.op.authenticates = false := by
      rw [← Bool.not_eq_true]
      exact fun hop => hsuccess (h.wanted r (List.mem_of_getElem? hr) hop)
    have hnone : (askedOf r).callback true = false := Bool.not_eq_true _ ▸ hsuccess
    rcases succeed_of_not_session lib.json now c.request
      (htype ▸ responseType_of_not_authenticates hnot) with hsucceed | ⟨type, x, hsucceed⟩
    · rw [hsucceed] at hcalls'
      refine h.silent ha hc hr hcalls hcalls' ?_ hnone
      simp [WrappedClient.deliverAll, WrappedClient.deliver, hcallback]
    · rw [hsucceed] at hcalls'
      refine h.silent ha hc hr hcalls hcalls' ?_ hnone
      simp [WrappedClient.deliverAll, WrappedClient.deliver, hcallback]

theorem respond (h : ClientsLinked b maps d w)
    (hs : ClientAct.Sound b maps d (.respond c answer addr garbage)) :
    InStep b maps d w (.respond c answer addr garbage) := by
  obtain ⟨hplain, hcross⟩ := hs
  have haborted := h.alike.aborted
  cases ha : d.client.aborted with
  | true =>
    refine .stuck h ?_ ?_
    · simp only [DirectClient.step, State.step_aborted ha]
    · simp only [WrappedClient.step, State.step_aborted (haborted.trans ha)]
  | false =>
    by_cases hc : c ∈ d.client.outstanding
    · obtain ⟨r, data, hr, hfill, hcalls⟩ := h.inv.outcome_calls hc answer
      obtain ⟨r', data', hr', hfill', hcalls'⟩ :=
        h.wrappedInv.outcome_calls (h.alike.outstanding ▸ hc) answer
      obtain rfl : NClientWrapper.wrappedRequest r = r' := by
        rw [h.requests, List.getElem?_map, hr] at hr'
        exact Option.some.inj hr'
      rw [b.answer hfill] at hcalls
      rw [b.answer hfill'] at hcalls'
      have hplain := hplain r hr
      have hop : (NClientWrapper.wrappedRequest r).op = r.op := rfl
      rw [hop] at hcalls'
      cases hverdict : b.verdict r.op.responseType answer with
      | success now message =>
        rw [hverdict] at hcalls hcalls'
        exact h.succeeds ha hc hr (b.typed hverdict) hcalls hcalls' hcross
      | unreadable error =>
        rw [hverdict] at hcalls hcalls' hplain
        rw [Verdict.calls, if_pos hplain.1] at hcalls
        exact h.fails ha hc hr hcalls hcalls' hplain.2 (hcross _ hcalls)
      | failure error =>
        rw [hverdict] at hcalls hcalls' hplain
        exact h.fails ha hc hr hcalls hcalls' hplain (hcross _ hcalls)
      | dies =>
        rw [hverdict] at hcalls hcalls'
        exact h.dies ha hc hcalls hcalls'
    · have hc' : c ∉ w.client.outstanding := h.alike.outstanding ▸ hc
      refine .stuck h ?_ ?_
      · simp only [DirectClient.step, State.step_respond ha, if_neg hc]
      · simp only [WrappedClient.step, State.step_respond (haborted.trans ha), if_neg hc']

end

/-! ### The end of a callback -/

/-- The callback of a request ends, and its entry is erased. -/
theorem ids_returns {ids : IdState} (hi : ids.Inv) (hrunning : 0 < ids.wrapper.running.length) :
    ∃ ids', ids.step .returns = some ids' ∧ ids'.Inv ∧ ids'.asked = ids.asked ∧
      ids.wrapper.running.length = ids'.wrapper.running.length + 1 ∧
      ∀ q, ids.Waits q → ids'.Waits q := by
  cases hrun : ids.wrapper.running with
  | nil =>
    rw [hrun] at hrunning
    cases hrunning
  | cons p running =>
    obtain ⟨r, ok⟩ := p
    have hok : ids.fewIds .returns := trivial
    have hstep : ids.step .returns = some { ids with
        wrapper := { ids.wrapper with
          tables := ids.wrapper.tables.erase (r.lookedUp ok) r.id, running }.remove r } := by
      simp only [IdState.step, WrapperState.step, hrun, Option.map_some]
    refine ⟨_, hstep, hi.step hok hstep, rfl, rfl, ?_⟩
    rintro q ⟨⟨r', hr', hn⟩, hidle⟩
    have hne : r.number ≠ q := hidle (r, ok) (hrun ▸ List.mem_cons_self)
    refine ⟨⟨r', List.mem_filter.2 ⟨hr', ?_⟩, hn⟩, fun p hp => ?_⟩
    · rw [bne_iff_ne, hn]
      exact hne.symm
    · exact hidle p (hrun ▸ List.mem_cons_of_mem _ hp)

theorem returns (h : ClientsLinked b maps d w) : InStep b maps d w .returns := by
  have haborted := h.alike.aborted
  cases ha : d.client.aborted with
  | true =>
    refine .stuck h ?_ ?_
    · simp only [DirectClient.step, State.step_aborted ha]
    · simp only [WrappedClient.step, State.step_aborted (haborted.trans ha)]
  | false =>
    have ha' := haborted.trans ha
    cases hstack : d.client.stack with
    | nil =>
      refine .stuck h ?_ ?_
      · simp only [DirectClient.step, State.step_returns_nil ha hstack]
      · simp only [WrappedClient.step, State.step_returns_nil ha' (h.alike.stack.trans hstack)]
    | cons top stack =>
      have hstack' := h.alike.stack.trans hstack
      obtain ⟨c, rfl, -⟩ := h.inv.frames top (hstack ▸ List.mem_cons_self)
      have hinv := h.inv.returns ha hstack
      have hinv' := h.wrappedInv.returns ha' hstack'
      have halike := h.alike.returns (some c) stack
      have hd : d.step b .returns =
          ({ d with client := State.leave { d.client with stack } (some c) }, some .done) := by
        simp only [DirectClient.step, State.step_returns_cons ha hstack]
      obtain ⟨own, frames, hframes⟩ : ∃ own frames, w.frames = own :: frames := by
        refine List.exists_cons_of_length_pos ?_
        rw [h.frames, hstack]
        exact Nat.succ_pos _
      have hlength : frames.length = stack.length := by
        have := h.frames
        rw [hframes, hstack] at this
        exact Nat.succ.inj this
      have hrunning := h.running
      rw [hframes, List.count_cons] at hrunning
      cases own with
      | true =>
        have hcount : w.ids.wrapper.running.length = frames.count true + 1 := hrunning
        obtain ⟨ids, hids, hi, hasked, hrun, hwaits⟩ := ids_returns h.ids (by omega)
        have hleft : ids.wrapper.running.length = frames.count true := by omega
        refine .of_eq hd
          { w with client := State.leave { w.client with stack } (some c), ids, frames } ?_ ?_
        · simp only [WrappedClient.step, State.step_returns_cons ha' hstack', hframes, hids]
        · exact { h with
            alike := halike
            inv := hinv
            wrappedInv := hinv'
            asked := hasked.trans h.asked
            ids := hi
            waiting := fun c' hc' => hwaits _ (h.waiting c' hc')
            frames := hlength
            running := hleft }
      | false =>
        refine .of_eq hd
          { w with client := State.leave { w.client with stack } (some c), frames } ?_ ?_
        · simp only [WrappedClient.step, State.step_returns_cons ha' hstack', hframes]
        · exact { h with
            alike := halike
            inv := hinv
            wrappedInv := hinv'
            frames := hlength
            running := hrunning }

/-! ### One act -/

theorem query (h : ClientsLinked b maps d w) {i : Nat} {q : SessionQuery}
    (hs : SessionCall.Sound maps d.sessions (.query i q)) : InStep b maps d w (.query i q) := by
  obtain ⟨hk, hanswer⟩ := h.sessions.step (.query i q) hs
  refine ⟨{ h with sessions := hk }, ?_⟩
  exact congrArg (Option.map ClientSeen.session) hanswer

theorem release (h : ClientsLinked b maps d w) {i : Nat}
    (hs : SessionCall.Sound maps d.sessions (.release i)) : InStep b maps d w (.release i) := by
  obtain ⟨hk, hanswer⟩ := h.sessions.step (.release i) hs
  refine ⟨{ h with sessions := hk }, ?_⟩
  exact congrArg (Option.map ClientSeen.session) hanswer

theorem step (h : ClientsLinked b maps d w) (a : ClientAct ρ) (hs : a.Sound b maps d) :
    InStep b maps d w a := by
  cases a with
  | setErrorCallback set => exact h.setErrorCallback set
  | request i r addr kept => exact h.request hs addr kept
  | respond c answer addr garbage => exact h.respond hs
  | returns => exact h.returns
  | query i q => exact h.query hs
  | release i => exact h.release hs

end ClientsLinked

end

/-! ### A run -/

end NakamaCpp.CApi
