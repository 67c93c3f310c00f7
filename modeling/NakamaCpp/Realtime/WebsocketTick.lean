import NakamaCpp.Realtime.Websocket

/-!
# The inactivity check of `tick`, read by read

`WsState.step` takes the check at the top of `NWebsocketCppRest::tick`
(src/realtime/NWebsocketCppRest.cpp) as one step.  Here the timeout, the clock and
`_lastReceivedMessageTimeMs` are read in steps of their own, the last two in either order, and
the other threads go on in between.

    steady : the clock is not behind the last event, and nothing is received during the check
      →  whoever is disconnected for inactivity has been inactive                 (inactive_only)
-/

namespace NakamaCpp.Realtime

open Transition

/-! ## State -/

/-- A check that has begun: what it has read. -/
structure Check where
  timeout : UInt32
  now : Option UInt64 := none
  last : Option UInt64 := none
deriving DecidableEq, Repr

/-- A check that has ended: what it had read, and the time of the last open or message event. -/
structure Verdict where
  timeout : UInt32
  now : UInt64
  last : UInt64
  lastEvent : Option UInt64
deriving DecidableEq, Repr

/-- `getUnixTimestampMs()-_lastReceivedMessageTimeMs >= _activityTimeoutMs` -/
def Verdict.disconnects (v : Verdict) : Bool := decide (v.timeout.toUInt64 ≤ v.now - v.last)

/-- The subtraction does not wrap, and who is disconnected has received nothing for the timeout. -/
structure Verdict.Sound (v : Verdict) : Prop where
  noWrap : v.last ≤ v.now
  inactive : v.disconnects = true →
    ∃ time, v.lastEvent = some time ∧ time.toNat + v.timeout.toNat ≤ v.now.toNat

structure TickState where
  ws : WsState := {}
  /-- the check that `tick` is in -/
  check : Option Check := none
  /-- the time of the last open or message event -/
  lastEvent : Option UInt64 := none
  /-- the checks that have ended -/
  verdicts : List Verdict := []

inductive TickAction
  /-- a step of the transport that is not the beginning of `tick` -/
  | step (a : WsAction)
  | tickBegin
  | readTime (now : UInt64)
  | readLast
  | compare

/-- A step of another thread than the user's. -/
def WsAction.otherThread : WsAction → Bool
  | .serviceMessage .. | .serviceClose .. | .serviceQueues .. => true
  | .connectDone .. | .taskFails .. | .poolQueues .. => true
  | _ => false

/-- The time that `onOpened` or `onSocketMessage` stores. -/
def WsAction.eventTime : WsAction → Option UInt64
  | .serviceMessage _ _ now => some now
  | .connectDone _ (.ok ()) now => some now
  | _ => none

namespace TickState

/-- The lock guard of `tick`, after the check. -/
def lock (ws : WsState) : WsState := { ws with code := ws.code ++ [.lock] }

def step (s : TickState) : TickAction → Option TickState
  | .step (.tickBegin _) => none
  | .step a =>
    if s.check.isNone || a.otherThread then
      (s.ws.step a).map fun ws => { s with ws, lastEvent := a.eventTime.or s.lastEvent }
    else none
  | .tickBegin =>
    if s.check.isNone && s.ws.userCode then
      if s.ws.t.connected && decide (0 < s.ws.t.activityTimeoutMs) then
        some { s with check := some { timeout := s.ws.t.activityTimeoutMs } }
      else some { s with ws := lock s.ws }
    else none
  | .readTime now =>
    match s.check with
    | some ⟨timeout, none, last⟩ => some { s with check := some ⟨timeout, some now, last⟩ }
    | _ => none
  | .readLast =>
    match s.check with
    | some ⟨timeout, now, none⟩ =>
      some { s with check := some ⟨timeout, now, some s.ws.t.lastReceivedMessageTimeMs⟩ }
    | _ => none
  | .compare =>
    match s.check with
    | some ⟨timeout, some now, some last⟩ =>
      let v : Verdict := { timeout, now, last, lastEvent := s.lastEvent }
      some { s with
        ws := lock (if v.disconnects then s.ws.disconnect else s.ws)
        check := none
        verdicts := s.verdicts ++ [v] }
    | _ => none

/-- Nothing has happened yet; `_lastReceivedMessageTimeMs` is not initialized. -/
def init (last : UInt64) : TickState := { ws := { t := { lastReceivedMessageTimeMs := last } } }

/-- Without steps in between the check is the one of `WsState.step`. -/
theorem exec_check {s : TickState} (hcheck : s.check = none) (hu : s.ws.userCode = true)
    (hc : s.ws.t.connected = true) (ht : 0 < s.ws.t.activityTimeoutMs) (now : UInt64) :
    ∃ s', exec step anyStep s [.tickBegin, .readTime now, .readLast, .compare] = some s' ∧
      s.ws.step (.tickBegin now) = some s'.ws := by
  have hinactive : s.ws.t.inactive now =
      decide (s.ws.t.activityTimeoutMs.toUInt64 ≤ now - s.ws.t.lastReceivedMessageTimeMs) := by
    unfold NWebsocketCppRest.inactive
    rw [hc, decide_eq_true ht]
    rfl
  simp only [exec_anyStep_cons, exec_nil, step, hcheck, hu, hc, decide_eq_true ht, Option.isNone_none,
    Bool.and_self, if_true, Option.bind_some]
  refine ⟨_, rfl, ?_⟩
  simp only [WsState.step, hu, if_true, hinactive]
  rfl

/-! ## Before the first event -/

end TickState

/-- An open event. -/
def SocketEvent.isOpened : SocketEvent → Bool
  | .opened _ => true
  | _ => false

namespace WsState

/-- Nothing has been opened: `_connected` is not set and no event is on its way that sets it. -/
structure NoOpen (s : WsState) : Prop where
  status : s.t.connected = false
  queue : ∀ p ∈ s.t.userThreadFuncs, p.2.isOpened = false
  pool : ∀ event ∈ s.pool, event.isOpened = false
  service : ∀ ws event last, s.service ws = .handling event last → event.isOpened = false
  code : ∀ event, Micro.queue event ∈ s.code → event.isOpened = false

theorem time_disconnect (s : WsState) :
    s.disconnect.t.lastReceivedMessageTimeMs = s.t.lastReceivedMessageTimeMs := by
  unfold WsState.disconnect
  split <;> rfl

/-- Only an open or a message event changes `_lastReceivedMessageTimeMs`. -/
theorem time_of_step {s s' : WsState} {a : WsAction} (h : s.step a = some s')
    (ha : a.eventTime = none) :
    s'.t.lastReceivedMessageTimeMs = s.t.lastReceivedMessageTimeMs := by
  cases steps_of_step h with
  | connect type outcome => cases outcome <;> rfl
  | disconnect => exact s.time_disconnect
  | send built sent =>
    unfold WsState.send
    split
    · split
      · rfl
      · split <;> rfl
    · rfl
  | run s' hw h =>
    unfold WsState.runCode at h
    split at h <;> try cases Option.some.inj h
    · cases h
    · split <;> rfl
    · split <;> rfl
    · rfl
    · rfl
    · split <;> rfl
  | tickInactive now => exact s.time_disconnect
  | startEvent i event => cases event <;> rfl
  | serviceMessage => cases ha
  | serviceIgnores => cases ha
  | connectDone => cases ha
  | _ => rfl

/-- An open or message event stores its time. -/
theorem time_of_event {s s' : WsState} {a : WsAction} {time : UInt64} (h : s.step a = some s')
    (ha : a.eventTime = some time) : s'.t.lastReceivedMessageTimeMs = time := by
  cases steps_of_step h with
  | serviceMessage => cases ha; rfl
  | serviceIgnores => cases ha; rfl
  | connectDone => cases ha; rfl
  | _ => cases ha

theorem NoOpen.init (last : UInt64) : NoOpen { t := { lastReceivedMessageTimeMs := last } } where
  status := rfl
  queue := by simp
  pool := by simp
  service := by simp
  code := by simp

theorem NoOpen.push {s : WsState} (hi : NoOpen s) {event : SocketEvent}
    (he : event.isOpened = false) : NoOpen (s.push event) := by
  refine ⟨hi.status, fun p hp => ?_, hi.pool, hi.service, hi.code⟩
  simp only [WsState.push, List.mem_append, List.mem_singleton] at hp
  rcases hp with hp | rfl
  · exact hi.queue p hp
  · exact he

theorem NoOpen.setService {s : WsState} (hi : NoOpen s) (ws : Nat) {v : Service}
    (hv : ∀ event last, v = .handling event last → event.isOpened = false) :
    NoOpen (s.setService ws v) := by
  refine ⟨hi.status, hi.queue, hi.pool, fun ws' event last hs => ?_, hi.code⟩
  simp only [WsState.setService] at hs
  split at hs
  · exact hv event last hs
  · exact hi.service ws' event last hs

/-- A call of the user that leaves `code` behind. -/
theorem NoOpen.call {s s' : WsState} (hi : NoOpen s) (hc : s'.t.connected = false)
    (hq : s'.t.userThreadFuncs = s.t.userThreadFuncs) (hp : s'.pool = s.pool)
    (hs : s'.service = s.service)
    (hcode : ∀ event, Micro.queue event ∈ s'.code → event.isOpened = false) : NoOpen s' := by
  refine ⟨hc, ?_, ?_, ?_, hcode⟩
  · rw [hq]
    exact hi.queue
  · rw [hp]
    exact hi.pool
  · rw [hs]
    exact hi.service

theorem NoOpen.connect {s : WsState} (hi : NoOpen s) (type : NRtTransportType)
    (outcome : ConnectOutcome) : NoOpen (s.connect type outcome) := by
  cases outcome <;> refine hi.call hi.status rfl rfl rfl fun event he => ?_ <;>
    simp only [WsState.connect, List.mem_append, List.mem_cons, List.mem_map, Micro.queue.injEq,
      List.not_mem_nil, or_false, reduceCtorEq, and_false, exists_false, false_or] at he
  case clientThrows what => exact he ▸ rfl
  case uriThrows what => exact he ▸ rfl

theorem NoOpen.disconnect {s : WsState} (hi : NoOpen s) : NoOpen s.disconnect := by
  unfold WsState.disconnect
  split
  · exact hi
  · exact hi.call rfl rfl rfl rfl (by simp)

theorem NoOpen.runCode {s s' : WsState} (hi : NoOpen s) (h : s.runCode = some s') : NoOpen s' := by
  have hrest : ∀ {m : Micro} {code : List Micro}, s.code = m :: code →
      ∀ event, Micro.queue event ∈ code → event.isOpened = false := fun hc event he =>
    hi.code event (hc ▸ List.mem_cons_of_mem _ he)
  unfold WsState.runCode at h
  split at h <;> try cases Option.some.inj h
  · cases h
  · next event code hc =>
    have he : event.isOpened = false := hi.code event (hc ▸ List.mem_cons_self)
    split
    · exact hi.call hi.status rfl rfl rfl hi.code
    · have hi' : NoOpen { s with code } := hi.call hi.status rfl rfl rfl (hrest hc)
      exact hi'.push he
  · next ws code hc => split <;> exact hi.call hi.status rfl rfl rfl (hrest hc)
  · next type code hc => exact hi.call hi.status rfl rfl rfl (hrest hc)
  · next ws code hc =>
    have hi' : NoOpen { s with code, connecting := s.connecting ++ [ws] } :=
      hi.call hi.status rfl rfl rfl (hrest hc)
    exact hi'.setService ws (by simp)
  · next code hc =>
    split
    · exact hi.call hi.status rfl rfl rfl hi.code
    · exact hi.call hi.status rfl rfl rfl (hrest hc)

/-- Without an open or message event nothing becomes connected. -/
theorem NoOpen.step {s s' : WsState} {a : WsAction} (hi : NoOpen s) (h : s.step a = some s')
    (ha : a.eventTime = none) : NoOpen s' := by
  have hpool : ∀ {pool : List SocketEvent} {event : SocketEvent}, pool = s.pool ++ [event] →
      event.isOpened = false → ∀ e ∈ pool, e.isOpened = false := by
    rintro pool event rfl he e hmem
    rcases List.mem_append.1 hmem with hmem | hmem
    · exact hi.pool e hmem
    · rw [List.mem_singleton.1 hmem]
      exact he
  cases steps_of_step h with
  | connect type outcome => exact hi.connect type outcome
  | disconnect => exact hi.disconnect
  | send built sent =>
    unfold WsState.send
    rw [if_neg (by simp [hi.status])]
    exact hi
  | run s' hw h => exact hi.runCode h
  | tickBegin now hu => exact hi.call hi.status rfl rfl rfl (by simpa using hi.code)
  | tickInactive now hu =>
    have hi' := hi.disconnect
    exact hi'.call hi'.status rfl rfl rfl (by simpa using hi'.code)
  | startEvent i event queue hq =>
    have he : event.isOpened = false := hi.queue (i, event) (hq ▸ List.mem_cons_self)
    cases event with
    | opened ws => cases he
    | closed ws info => exact hi.call rfl rfl rfl rfl hi.code
    | _ => exact hi.call hi.status rfl rfl rfl hi.code
  | handlerReturns =>
    exact ⟨hi.status, fun p hp => hi.queue p (List.mem_of_mem_tail hp), hi.pool, hi.service, hi.code⟩
  | serviceClose ws code reason => exact hi.setService ws (by rintro _ _ ⟨⟩; rfl)
  | serviceQueues ws event last hs =>
    refine (hi.push (hi.service ws event last hs)).setService ws ?_
    cases last <;> simp
  | connectFails ws what =>
    exact ⟨hi.status, hi.queue, hpool rfl rfl, hi.service, hi.code⟩
  | taskFails description =>
    exact ⟨hi.status, hi.queue, hpool rfl rfl, hi.service, hi.code⟩
  | poolQueues i event hpool =>
    have hi' : NoOpen { s with pool := s.pool.eraseIdx i } :=
      ⟨hi.status, hi.queue, fun e he => hi.pool e (List.mem_of_mem_eraseIdx he), hi.service, hi.code⟩
    exact hi'.push (hi.pool event (List.mem_of_getElem? hpool))
  | serviceMessage => cases ha
  | serviceIgnores => cases ha
  | connectDone => cases ha
  -- the other steps queue nothing
  | _ => exact hi.call hi.status rfl rfl rfl hi.code

end WsState

/-! ## The run -/

/-- Both times have been read and the check will not disconnect. -/
def Check.stays : Check → Bool
  | ⟨timeout, some now, some last⟩ => decide (now - last < timeout.toUInt64)
  | _ => false

namespace TickState

/-- The clock that `tick` reads is not behind the last event.  An event received between the two
readings is not ahead of the clock that was read, and once the last time has been read nothing is
received, unless the check is not going to disconnect. -/
def steady (s : TickState) : TickAction → Bool
  | .step a =>
    a.eventTime.all fun time => s.check.all fun c =>
      if c.last.isSome then c.stays else c.now.all fun now => decide (time ≤ now)
  | .readTime now => decide (s.ws.t.lastReceivedMessageTimeMs ≤ now)
  | _ => true

/-- What one step keeps. -/
structure Inv (s : TickState) : Prop where
  verdicts : ∀ v ∈ s.verdicts, v.Sound
  event : ∀ time, s.lastEvent = some time → s.ws.t.lastReceivedMessageTimeMs = time
  noEvent : s.lastEvent = none → s.ws.NoOpen
  begun : s.check.isSome = true → s.lastEvent.isSome = true
  current : ∀ c last, s.check = some c → c.last = some last →
    last = s.ws.t.lastReceivedMessageTimeMs ∨ c.stays = true
  ordered : ∀ c now, s.check = some c → c.now = some now →
    c.last.getD s.ws.t.lastReceivedMessageTimeMs ≤ now

theorem Inv.init (last : UInt64) : Inv (init last) where
  verdicts := by simp [TickState.init]
  event := by simp [TickState.init]
  noEvent := fun _ => .init last
  begun := by simp [TickState.init]
  current := by simp [TickState.init]
  ordered := by simp [TickState.init]

theorem transport_of_step {s s' : TickState} {a : WsAction} (h : s.step (.step a) = some s') :
    ∃ ws, s.ws.step a = some ws ∧ { s with ws, lastEvent := a.eventTime.or s.lastEvent } = s' := by
  cases a with
  | tickBegin now => cases h
  | _ =>
    simp only [TickState.step] at h
    split at h
    · exact Option.map_eq_some_iff.1 h
    · cases h

/-- A step of the transport. -/
theorem Inv.transport {s s' : TickState} {a : WsAction} (hi : Inv s)
    (hok : s.steady (.step a) = true) (h : s.step (.step a) = some s') : Inv s' := by
  obtain ⟨ws, hws, rfl⟩ := transport_of_step h
  cases ha : a.eventTime with
  | none =>
    have ht := WsState.time_of_step hws ha
    refine ⟨hi.verdicts, fun time he => ht.trans (hi.event time he), fun he => ?_, hi.begun, ?_, ?_⟩
    · exact (hi.noEvent he).step hws ha
    · rw [ht]
      exact hi.current
    · rw [ht]
      exact hi.ordered
  | some time =>
    have ht := WsState.time_of_event hws ha
    simp only [steady, ha, Option.all_some] at hok
    refine ⟨hi.verdicts, fun time' he => ?_, by rintro ⟨⟩, fun _ => rfl, ?_, ?_⟩
    · cases he
      exact ht
    · intro c last (hc : s.check = some c) hl
      -- the last time has been read, so the event comes only if the check stays
      simp only [hc, Option.all_some, hl, Option.isSome_some, if_true] at hok
      exact .inr hok
    · intro c now (hc : s.check = some c) hn
      cases hl : c.last with
      | none => simpa [hc, hl, hn, ht] using hok
      | some last =>
        have := hi.ordered c now hc hn
        rw [hl] at this
        exact this

theorem noOpen_lock {ws : WsState} (hi : ws.NoOpen) : (lock ws).NoOpen :=
  hi.call hi.status rfl rfl rfl (by simpa [lock] using hi.code)

theorem Inv.tickBegin {s s' : TickState} (hi : Inv s) (h : s.step .tickBegin = some s') :
    Inv s' := by
  simp only [TickState.step] at h
  split at h
  · next hu =>
    have hnone : s.check = none := by simpa using (Bool.and_eq_true_iff.1 hu).1
    split at h
    · next hc =>
      cases h
      refine ⟨hi.verdicts, hi.event, hi.noEvent, fun _ => ?_, ?_, ?_⟩
      · -- something is connected, so it has been opened
        cases he : s.lastEvent with
        | none =>
          rw [(hi.noEvent he).status] at hc
          cases hc
        | some time => rfl
      · rintro c last ⟨⟩ ⟨⟩
      · rintro c now ⟨⟩ ⟨⟩
    · cases h
      refine ⟨hi.verdicts, hi.event, fun he => noOpen_lock (hi.noEvent he), hi.begun, ?_, ?_⟩
      · intro c last hc
        rw [hnone] at hc
        cases hc
      · intro c now hc
        rw [hnone] at hc
        cases hc
  · cases h

theorem Inv.readTime {s s' : TickState} {now : UInt64} (hi : Inv s)
    (hok : s.steady (.readTime now) = true) (h : s.step (.readTime now) = some s') : Inv s' := by
  simp only [TickState.step] at h
  split at h <;> cases h
  next timeout last hc =>
  -- the time has not been read, so the check does not stay yet
  have hlast : ∀ l, last = some l → l = s.ws.t.lastReceivedMessageTimeMs := by
    rintro l rfl
    exact (hi.current _ l hc rfl).resolve_right (by simp [Check.stays])
  refine ⟨hi.verdicts, hi.event, hi.noEvent, fun _ => hi.begun (hc ▸ rfl), ?_, ?_⟩
  · rintro c l ⟨⟩ hl
    exact .inl (hlast l hl)
  · rintro c n ⟨⟩ ⟨⟩
    have hle : s.ws.t.lastReceivedMessageTimeMs ≤ now := of_decide_eq_true hok
    cases last with
    | none => exact hle
    | some l => exact hlast l rfl ▸ hle

theorem Inv.readLast {s s' : TickState} (hi : Inv s) (h : s.step .readLast = some s') : Inv s' := by
  simp only [TickState.step] at h
  split at h <;> cases h
  next timeout now hc =>
  refine ⟨hi.verdicts, hi.event, hi.noEvent, fun _ => hi.begun (hc ▸ rfl), ?_, ?_⟩
  · rintro c l ⟨⟩ ⟨⟩
    exact .inl rfl
  · rintro c n ⟨⟩ hn
    exact hi.ordered ⟨timeout, now, none⟩ n hc hn

/-- The age that a check finds is the age of the last event. -/
theorem Inv.sound {s : TickState} (hi : Inv s) {timeout : UInt32} {now last : UInt64}
    (hc : s.check = some ⟨timeout, some now, some last⟩) :
    Verdict.Sound { timeout, now, last, lastEvent := s.lastEvent } := by
  have hle : last ≤ now := hi.ordered _ now hc rfl
  refine ⟨hle, fun hd => ?_⟩
  have hd : timeout.toUInt64 ≤ now - last := of_decide_eq_true hd
  have hlast : last = s.ws.t.lastReceivedMessageTimeMs := by
    refine (hi.current _ last hc rfl).resolve_right ?_
    simpa [Check.stays] using hd
  obtain ⟨time, he⟩ := Option.isSome_iff_exists.1 (hi.begun (hc ▸ rfl))
  have htime : last = time := hlast.trans (hi.event time he)
  refine ⟨time, he, ?_⟩
  change time.toNat + timeout.toNat ≤ now.toNat
  rw [← htime]
  rw [UInt64.le_iff_toNat_le] at hle hd
  rw [UInt64.toNat_sub_of_le _ _ (UInt64.le_iff_toNat_le.2 hle), UInt32.toNat_toUInt64] at hd
  omega

theorem Inv.compare {s s' : TickState} (hi : Inv s) (h : s.step .compare = some s') : Inv s' := by
  simp only [TickState.step] at h
  split at h <;> cases h
  next timeout now last hc =>
  obtain ⟨time, he⟩ := Option.isSome_iff_exists.1 (hi.begun (hc ▸ rfl))
  refine ⟨fun v hv => ?_, fun time' he' => ?_, fun hnone => ?_, by rintro ⟨⟩, by rintro _ _ ⟨⟩,
    by rintro _ _ ⟨⟩⟩
  · rcases List.mem_append.1 hv with hv | hv
    · exact hi.verdicts v hv
    · rw [List.mem_singleton.1 hv]
      exact hi.sound hc
  · rw [← hi.event time' he']
    simp only [lock]
    split
    · exact WsState.time_disconnect s.ws
    · rfl
  · rw [he] at hnone
    cases hnone

theorem Inv.step {s s' : TickState} {a : TickAction} (hi : Inv s) (hok : s.steady a = true)
    (h : s.step a = some s') : Inv s' := by
  cases a with
  | step a => exact hi.transport hok h
  | tickBegin => exact hi.tickBegin h
  | readTime now => exact hi.readTime hok h
  | readLast => exact hi.readLast h
  | compare => exact hi.compare h

/-- **Inactivity.**  In every run whose clock is not behind the last event when `tick` reads it,
and in which nothing is received between the readings and a disconnect, whoever is disconnected
has received nothing for the timeout, and the subtraction does not wrap. -/
theorem inactive_only (last : UInt64) {s : TickState}
    (h : Reach step (fun s a => steady s a = true) (init last) s) : ∀ v ∈ s.verdicts, v.Sound :=
  (h.invariant (.init last) fun _ _ _ hi hok hs => hi.step hok hs : Inv s).verdicts

/-- A connection with a timeout of 5000 is opened at 1000. -/
def openedRun : List TickAction :=
  [.step (.setActivityTimeout 5000), .step (.connect .binary .started), .step .run, .step .run,
    .step (.connectDone 0 (.ok ()) 1000), .step (.poolQueues 0), .tickBegin, .step .run,
    .step .startEvent, .step .handlerReturns, .step .tickEnd, .tickBegin]

/-- The socket thread gets a ping while the first check reads, and closes while the second does. -/
def pingedRun : List TickAction :=
  openedRun ++ [.readTime 6000, .step (.serviceMessage 0 ⟨.ping, .ok .empty⟩ 6000),
    .step (.serviceQueues 0), .readLast, .compare, .step .run, .step .startEvent,
    .step .handlerReturns, .step .tickEnd, .tickBegin, .readTime 11000,
    .step (.serviceClose 0 1000 ""), .readLast, .compare]

theorem inactive_only_pingedRun :
    ∃ s, exec step (fun s a => steady s a = true) (init 0) pingedRun = some s ∧
      (∃ v ∈ s.verdicts, v.disconnects = false) ∧ (∃ v ∈ s.verdicts, v.disconnects = true) ∧
      ∀ v ∈ s.verdicts, v.Sound := by
  have h : (exec step (fun s a => steady s a = true) (init 0) pingedRun).map verdicts =
      some [⟨5000, 6000, 6000, some 6000⟩, ⟨5000, 11000, 6000, some 6000⟩] := by decide
  obtain ⟨s, hs, hv⟩ := Option.map_eq_some_iff.1 h
  refine ⟨s, hs, ?_, ?_, inactive_only 0 (Reach.of_exec _ hs)⟩
  · rw [hv]
    exact ⟨_, List.mem_cons_self, rfl⟩
  · rw [hv]
    exact ⟨_, List.mem_cons_of_mem _ List.mem_cons_self, rfl⟩

/-- A check that disconnects for no reason. -/
theorem exists_unsound {l : List TickAction} {v : Verdict}
    (h : (exec step anyStep (init 0) (openedRun ++ l)).map verdicts = some [v])
    (hd : v.disconnects = true) (hs : ¬ v.Sound) :
    ∃ s, Reach step anyStep (init 0) s ∧ ∃ v' ∈ s.verdicts,
      v'.disconnects = true ∧ ¬ v'.Sound ∧ v' = v := by
  obtain ⟨s, he, hv⟩ := Option.map_eq_some_iff.1 h
  refine ⟨s, Reach.of_exec _ he, v, ?_, hd, hs, rfl⟩
  rw [hv]
  exact List.mem_singleton_self v

/-- The clock steps back. -/
def clockBack : List TickAction := [.readTime 999, .readLast, .compare]

/-- A ping comes between the two readings. -/
def pingBetween : List TickAction :=
  [.readTime 2000, .step (.serviceMessage 0 ⟨.ping, .ok .empty⟩ 2001), .readLast, .compare]

/-- A ping comes after them. -/
def pingAfter : List TickAction :=
  [.readTime 6000, .readLast, .step (.serviceMessage 0 ⟨.ping, .ok .empty⟩ 6000), .compare]

/-- An active client is disconnected: the clock steps back, or a message arrives between the two
readings or after them. -/
theorem not_inactive_only :
    (∃ s, Reach step anyStep (init 0) s ∧ ∃ v ∈ s.verdicts, v.disconnects = true ∧ ¬ v.Sound ∧
      v = ⟨5000, 999, 1000, some 1000⟩) ∧
    (∃ s, Reach step anyStep (init 0) s ∧ ∃ v ∈ s.verdicts, v.disconnects = true ∧ ¬ v.Sound ∧
      v = ⟨5000, 2000, 2001, some 2001⟩) ∧
    ∃ s, Reach step anyStep (init 0) s ∧ ∃ v ∈ s.verdicts, v.disconnects = true ∧ ¬ v.Sound ∧
      v = ⟨5000, 6000, 1000, some 6000⟩ := by
  have hback : (exec step anyStep (init 0) (openedRun ++ clockBack)).map verdicts =
      some [⟨5000, 999, 1000, some 1000⟩] := by decide
  have hbetween : (exec step anyStep (init 0) (openedRun ++ pingBetween)).map verdicts =
      some [⟨5000, 2000, 2001, some 2001⟩] := by decide
  have hafter : (exec step anyStep (init 0) (openedRun ++ pingAfter)).map verdicts =
      some [⟨5000, 6000, 1000, some 6000⟩] := by decide
  refine ⟨exists_unsound hback (by decide) fun hv => ?_,
    exists_unsound hbetween (by decide) fun hv => ?_, exists_unsound hafter (by decide) fun hv => ?_⟩
  · exact absurd hv.noWrap (by decide)
  · exact absurd hv.noWrap (by decide)
  · obtain ⟨time, he, ht⟩ := hv.inactive rfl
    cases he
    exact absurd ht (by decide)

end TickState

end NakamaCpp.Realtime
