import NakamaCpp.Realtime.Websocket

/-!
# Runs of the websocket transport

Three properties of every run, each under the condition on its steps that the
code does not check itself.

    attributed : an open or close event is run for the current websocket only
      →  _connected is true only for the websocket whose open event set it
    returning  : handlers return, and do not lock the tick's thread out
      →  every event is started once, in the order queued
    lockable   : under the lock, no call fails and no running websocket is destroyed
      →  nobody waits for a lock that waits for him
-/

namespace NakamaCpp.Realtime

open Transition

/-- Parts that end a call. -/
def Micro.last : Micro → Bool
  | .start _ => true
  | .lock => true
  | _ => false

namespace WsState

/-! ## Connection state -/

/-- `_connected` speaks of the current websocket, and `send` can rely on it. -/
structure StatusCurrent (s : WsState) : Prop where
  current : s.t.connected = true →
    ∃ ws, s.t.wsClient = some ws ∧ s.setBy = some ws ∧ ws ∉ s.closedSince
  noNull : s.nullDeref = false
  noCross : s.crossed = false

/-- A websocket is only replaced while disconnected, and an open or close event
that would change `_connected` is run while its websocket is the current one. -/
def attributed (s : WsState) : WsAction → Bool
  | .connect _ (.clientThrows _) => true
  | .connect _ _ => !s.t.connected
  | .startEvent =>
    match s.t.userThreadFuncs.head? with
    | some (_, .opened ws) => s.t.connected || s.t.wsClient == some ws
    | some (_, .closed ws _) => !s.t.connected || s.t.wsClient == some ws
    | _ => true
  | _ => true

theorem StatusCurrent.disconnect {s : WsState} (hi : StatusCurrent s) : StatusCurrent s.disconnect := by
  unfold WsState.disconnect
  split
  · exact hi
  · exact ⟨by rintro ⟨⟩, hi.noNull, hi.noCross⟩

theorem StatusCurrent.send {s : WsState} (hi : StatusCurrent s) (built sent : Except String Unit) :
    StatusCurrent (s.send built sent) := by
  unfold WsState.send
  split
  · next hc =>
    obtain ⟨ws, hws, -⟩ := hi.current hc
    split
    · exact ⟨hi.current, hi.noNull, hi.noCross⟩
    · split
      · next hnone => rw [hws] at hnone; cases hnone
      · exact ⟨hi.current, hi.noNull, hi.noCross⟩
      · exact hi
  · exact hi

/-- The parts of a call that are left do not touch the status. -/
theorem StatusCurrent.runCode {s s' : WsState} (hi : StatusCurrent s) (h : s.runCode = some s') :
    StatusCurrent s' := by
  unfold WsState.runCode at h
  split at h <;> try cases Option.some.inj h
  · cases h
  · split
    · exact ⟨hi.current, hi.noNull, hi.noCross⟩
    · exact ⟨hi.current, hi.noNull, hi.noCross⟩
  · split
    · exact ⟨hi.current, hi.noNull, hi.noCross⟩
    · exact ⟨hi.current, hi.noNull, hi.noCross⟩
  · exact ⟨hi.current, hi.noNull, hi.noCross⟩
  · exact ⟨hi.current, hi.noNull, hi.noCross⟩
  · split
    · exact ⟨hi.current, hi.noNull, hi.noCross⟩
    · exact ⟨hi.current, hi.noNull, hi.noCross⟩

theorem StatusCurrent.fire {s : WsState} (hi : StatusCurrent s) (event : SocketEvent)
    (hok : match event with
      | .opened ws => (s.t.connected || s.t.wsClient == some ws) = true
      | .closed ws _ => (!s.t.connected || s.t.wsClient == some ws) = true
      | _ => True) : StatusCurrent (s.fire event) := by
  cases event with
  | opened ws =>
    cases hc : s.t.connected with
    | true =>
      obtain ⟨ws', hws, hset, hcl⟩ := hi.current hc
      refine ⟨fun _ => ⟨ws', hws, ?_, ?_⟩, hi.noNull, ?_⟩
      · simp [WsState.fire, hc, hset]
      · simpa [WsState.fire, hc] using hcl
      · simp [WsState.fire, hc, hi.noCross]
    | false =>
      have hws : s.t.wsClient = some ws := by simpa [hc] using hok
      refine ⟨fun _ => ⟨ws, hws, ?_, ?_⟩, hi.noNull, ?_⟩
      · simp [WsState.fire, hc]
      · simp [WsState.fire, hc]
      · simp [WsState.fire, hws, hi.noCross]
  | closed ws info =>
    refine ⟨by rintro ⟨⟩, hi.noNull, ?_⟩
    simp only [WsState.fire, hi.noCross, Bool.false_or, Bool.and_eq_false_iff]
    cases hc : s.t.connected with
    | false => exact .inl rfl
    | true => exact .inr (by simpa [hc] using hok)
  | message => exact hi
  | error => exact hi
  | ping => exact hi
  | pong => exact hi

theorem StatusCurrent.step {s s' : WsState} {a : WsAction} (hi : StatusCurrent s)
    (hok : s.attributed a = true) (h : s.step a = some s') : StatusCurrent s' := by
  cases steps_of_step h with
  | connect type outcome =>
    cases outcome with
    | clientThrows what => exact ⟨hi.current, hi.noNull, hi.noCross⟩
    | uriThrows what =>
      have hc : s.t.connected = false := by simpa [attributed] using hok
      exact ⟨fun h => absurd h (by simp [WsState.connect, hc]), hi.noNull, hi.noCross⟩
    | started =>
      have hc : s.t.connected = false := by simpa [attributed] using hok
      exact ⟨fun h => absurd h (by simp [WsState.connect, hc]), hi.noNull, hi.noCross⟩
  | disconnect => exact hi.disconnect
  | send built sent => exact hi.send built sent
  | run s' hw h => exact hi.runCode h
  | tickInactive now =>
    exact ⟨hi.disconnect.current, hi.disconnect.noNull, hi.disconnect.noCross⟩
  | startEvent i event queue hq =>
    have hi' : StatusCurrent { s with handler := true, started := s.started ++ [i] } :=
      ⟨hi.current, hi.noNull, hi.noCross⟩
    refine hi'.fire event ?_
    simp only [attributed, hq, List.head?_cons] at hok
    cases event <;> first | exact hok | trivial
  -- the other steps leave `_connected` and `_wsClient` alone
  | _ => exact ⟨hi.current, hi.noNull, hi.noCross⟩

/-- **Connection state.**  In every run whose open and close events are run for the
current websocket only, `_connected` is true only for the websocket whose open
event set it, `send` never calls through a null client, and no event changes
`_connected` for another websocket. -/
theorem status_current {s : WsState} (h : Reach step (fun s a => attributed s a = true) {} s) :
    StatusCurrent s :=
  h.invariant ⟨by rintro ⟨⟩, rfl, rfl⟩ fun _ _ _ hi hok hs => hi.step hok hs

/-- A connection that opens. -/
def openingRun : List WsAction :=
  [.connect .binary .started, .run, .run, .connectDone 0 (.ok ()) 1, .poolQueues 0, .tickBegin 2,
    .run, .startEvent]

theorem status_current_openingRun :
    ∃ s, exec step (fun s a => attributed s a = true) {} openingRun = some s ∧ StatusCurrent s := by
  have h : (exec step (fun s a => attributed s a = true) {} openingRun).isSome = true := by decide
  exact ⟨_, (Option.some_get h).symm, status_current (Reach.get_exec openingRun h)⟩

/-- `disconnect` overtakes the open event of its websocket. -/
def lateOpenRun : List WsAction :=
  [.connect .binary .started, .run, .run, .connectDone 0 (.ok ()) 1, .poolQueues 0, .disconnect,
    .run, .serviceClose 0 1000 "", .serviceQueues 0, .joined, .tickBegin 2, .run, .startEvent]

/-- A client can be connected without a websocket. -/
theorem status_not_current :
    ∃ s, Reach step anyStep {} s ∧ s.t.connected = true ∧ s.t.wsClient = none ∧
      ¬ StatusCurrent s := by
  have h : (exec step anyStep {} lateOpenRun).isSome = true := by decide
  refine ⟨_, Reach.get_exec lateOpenRun h, rfl, rfl, fun hs => ?_⟩
  obtain ⟨ws, hws, -⟩ := hs.current rfl
  cases hws

/-! ## Event delivery -/

/-- Queued events that have not been started. -/
def waiting (s : WsState) : List (Nat × SocketEvent) :=
  if s.handler then s.t.userThreadFuncs.tail else s.t.userThreadFuncs

/-- Every event is started once, in the order queued: those started and those
still waiting are together all events queued.  A tick can always go on to the
next event, and when it ends nothing is left. -/
structure EventsOnce (s : WsState) : Prop where
  ordered : s.started ++ s.waiting.map Prod.fst = List.range s.queued
  notStuck : s.selfLock = false
  goesOn : s.locked = true → s.handler = false →
    (∃ s', s.step .startEvent = some s') ∨ ∃ s', s.step .tickEnd = some s'
  allStarted : ∀ s', s.step .tickEnd = some s' → s'.started = List.range s'.queued

/-- Handlers return, and nothing is queued (and no `tick` begun) on the user
thread while `tick` holds the lock. -/
def returning (s : WsState) : WsAction → Bool
  | .handlerThrows => false
  | .run =>
    match s.code with
    | .queue _ :: _ => !s.locked
    | .lock :: _ => !s.locked
    | _ => true
  | _ => true

/-- The part of `EventsOnce` that one step keeps. -/
structure Delivering (s : WsState) : Prop where
  ordered : s.started ++ s.waiting.map Prod.fst = List.range s.queued
  notStuck : s.selfLock = false
  front : s.handler = true → s.locked = true ∧ s.t.userThreadFuncs ≠ []

theorem waiting_congr {s s' : WsState} (ht : s'.t.userThreadFuncs = s.t.userThreadFuncs)
    (hh : s'.handler = s.handler) : s'.waiting = s.waiting := by
  simp only [waiting, ht, hh]

/-- A step that leaves the queue and the user thread's lock alone. -/
theorem Delivering.congr {s s' : WsState} (hi : Delivering s)
    (ht : s'.t.userThreadFuncs = s.t.userThreadFuncs) (hh : s'.handler = s.handler)
    (hst : s'.started = s.started) (hq : s'.queued = s.queued) (hl : s'.locked = s.locked)
    (hs : s'.selfLock = s.selfLock) : Delivering s' := by
  refine ⟨?_, ?_, ?_⟩
  · rw [waiting_congr ht hh, hst, hq]
    exact hi.ordered
  · rw [hs]
    exact hi.notStuck
  · rw [hh, hl, ht]
    exact hi.front

/-- Queueing an event while no handler runs. -/
theorem Delivering.push {s : WsState} (hi : Delivering s) (hl : s.locked = false)
    (event : SocketEvent) : Delivering (s.push event) := by
  have hh : s.handler = false := by
    cases h : s.handler with
    | false => rfl
    | true => rw [(hi.front h).1] at hl; cases hl
  refine ⟨?_, hi.notStuck, ?_⟩
  · have := hi.ordered
    simp only [waiting, hh, Bool.false_eq_true, if_false] at this
    simp only [WsState.push, waiting, hh, Bool.false_eq_true, if_false, List.map_append,
      List.map_singleton, ← List.append_assoc, this, List.range_succ]
  · intro h
    simp only [WsState.push, hh] at h
    cases h

theorem Delivering.disconnect {s : WsState} (hi : Delivering s) : Delivering s.disconnect := by
  unfold WsState.disconnect
  split
  · exact hi
  · exact hi.congr rfl rfl rfl rfl rfl rfl

theorem Delivering.runCode {s s' : WsState} (hi : Delivering s) (hok : s.returning .run = true)
    (h : s.runCode = some s') : Delivering s' := by
  unfold WsState.runCode at h
  split at h
  · cases h
  · next event code hc =>
    have hl : s.locked = false := by simpa [returning, hc] using hok
    rw [if_neg (by simp [hl])] at h
    cases h
    have hi' : Delivering { s with code } := hi.congr rfl rfl rfl rfl rfl rfl
    exact hi'.push hl event
  · cases h
    split
    · exact hi.congr rfl rfl rfl rfl rfl rfl
    · exact hi.congr rfl rfl rfl rfl rfl rfl
  · cases h
    exact hi.congr rfl rfl rfl rfl rfl rfl
  · cases h
    exact hi.congr rfl rfl rfl rfl rfl rfl
  · next code hc =>
    have hl : s.locked = false := by simpa [returning, hc] using hok
    rw [if_neg (by simp [hl])] at h
    cases h
    exact ⟨hi.ordered, hi.notStuck, fun h => ⟨rfl, (hi.front h).2⟩⟩

theorem fire_queue (s : WsState) (event : SocketEvent) :
    (s.fire event).t.userThreadFuncs = s.t.userThreadFuncs ∧ (s.fire event).handler = s.handler ∧
    (s.fire event).started = s.started ∧ (s.fire event).queued = s.queued ∧
    (s.fire event).locked = s.locked ∧ (s.fire event).selfLock = s.selfLock := by
  cases event <;> simp [fire]

theorem Delivering.step {s s' : WsState} {a : WsAction} (hi : Delivering s)
    (hok : s.returning a = true) (h : s.step a = some s') : Delivering s' := by
  cases steps_of_step h with
  | connect type outcome => cases outcome <;> exact hi.congr rfl rfl rfl rfl rfl rfl
  | disconnect => exact hi.disconnect
  | send built sent =>
    unfold WsState.send
    split
    · split
      · exact hi.congr rfl rfl rfl rfl rfl rfl
      · split <;> exact hi.congr rfl rfl rfl rfl rfl rfl
    · exact hi
  | run s' hw h => exact hi.runCode hok h
  | tickInactive now => exact hi.disconnect.congr rfl rfl rfl rfl rfl rfl
  | startEvent i event queue hq hl hh =>
    have hi' : Delivering { s with handler := true, started := s.started ++ [i] } := by
      refine ⟨?_, hi.notStuck, fun _ => ⟨hl, by simp [hq]⟩⟩
      have := hi.ordered
      simp only [waiting, hh, Bool.false_eq_true, if_false, hq, List.map_cons] at this
      simpa [waiting, hq] using this
    obtain ⟨h1, h2, h3, h4, h5, h6⟩ :=
      fire_queue { s with handler := true, started := s.started ++ [i] } event
    exact hi'.congr h1 h2 h3 h4 h5 h6
  | handlerReturns hh =>
    refine ⟨?_, hi.notStuck, by rintro ⟨⟩⟩
    have := hi.ordered
    simpa only [waiting, hh, if_true, Bool.false_eq_true, if_false] using this
  | handlerThrows => cases hok
  | tickEnd hl hh =>
    refine ⟨hi.ordered, hi.notStuck, fun h => ?_⟩
    rw [hh] at h
    cases h
  | serviceQueues ws event last hs hl => exact (hi.push hl event).congr rfl rfl rfl rfl rfl rfl
  | poolQueues i event hpool hl =>
    have hi' : Delivering { s with pool := s.pool.eraseIdx i } := hi.congr rfl rfl rfl rfl rfl rfl
    exact hi'.push hl event
  -- the other steps touch neither the queue nor the lock
  | _ => exact hi.congr rfl rfl rfl rfl rfl rfl

/-- **Event delivery.**  In every run whose handlers return without locking the
tick's thread out, each event is started once, in the order queued. -/
theorem events_once {s : WsState} (h : Reach step (fun s a => returning s a = true) {} s) :
    EventsOnce s := by
  have hi : Delivering s :=
    h.invariant ⟨rfl, rfl, by rintro ⟨⟩⟩ fun _ _ _ hi hok hs => hi.step hok hs
  refine ⟨hi.ordered, hi.notStuck, ?_, ?_⟩
  · intro hl hh
    cases hq : s.t.userThreadFuncs with
    | nil => exact .inr (Option.isSome_iff_exists.1 (by simp [WsState.step, hl, hh, hq]))
    | cons p queue => exact .inl (Option.isSome_iff_exists.1 (by simp [WsState.step, hl, hh, hq]))
  · intro s' hs
    simp only [WsState.step] at hs
    split at hs <;> cases hs
    next hh =>
    simp only [Bool.and_eq_true, Bool.not_eq_true', List.isEmpty_iff] at hh
    have := hi.ordered
    simpa [waiting, hh.1.2, hh.2] using this

theorem events_once_openingRun :
    ∃ s, exec step (fun s a => returning s a = true) {} openingRun = some s ∧ EventsOnce s := by
  have h : (exec step (fun s a => returning s a = true) {} openingRun).isSome = true := by decide
  exact ⟨_, (Option.some_get h).symm, events_once (Reach.get_exec openingRun h)⟩

/-- A handler throws, and the next tick runs its event again. -/
def throwingRun : List WsAction :=
  [.connect .binary (.clientThrows "config"), .run, .tickBegin 1, .run, .startEvent, .handlerThrows,
    .tickBegin 2, .run, .startEvent]

/-- An event can be started twice, and an event queued by a handler locks the tick out. -/
theorem events_not_once :
    (∃ s, Reach step anyStep {} s ∧ s.started = [0, 0] ∧ ¬ EventsOnce s) ∧
    ∃ s, Reach step anyStep {} s ∧ s.handler = true ∧ s.selfLock = true ∧ ¬ EventsOnce s := by
  have h : (exec step anyStep {} throwingRun).isSome = true := by decide
  have h' : (exec step anyStep {} (throwingRun.take 5 ++
      [.connect .binary (.clientThrows "config"), .run])).isSome = true := by decide
  refine ⟨⟨_, Reach.get_exec throwingRun h, rfl, fun hs => ?_⟩,
    ⟨_, Reach.get_exec _ h', rfl, rfl, fun hs => ?_⟩⟩
  · have ho : [0, 0] = [0] := hs.ordered
    exact absurd ho (by decide)
  · cases hs.notStuck

/-! ## Events on their way -/

/-- What the next step makes: an event of a socket satisfies `Q`, one of a task or of the user's
call `R`. -/
structure Makes (Q R : SocketEvent → Prop) (s : WsState) (a : WsAction) : Prop where
  weaker : ∀ event, R event → Q event
  error : ∀ description, R (.error description)
  closed : ∀ ws info, Q (.closed ws info)
  opened : ∀ ws now, a = .connectDone ws (.ok ()) now → R (.opened ws)
  message : ∀ ws msg now event, a = .serviceMessage ws msg now →
    NWebsocketCppRest.onSocketMessage ws msg = some event → Q event
  /-- `tick` is left, and the event at the front stays. -/
  again : a = .handlerThrows → ∀ p ∈ s.t.userThreadFuncs.head?, Q p.2

/-- The events that have not been started. -/
structure Pending (Q R : SocketEvent → Prop) (s : WsState) : Prop where
  waiting : ∀ p ∈ s.waiting, Q p.2
  service : ∀ ws event last, s.service ws = .handling event last → Q event
  pool : ∀ event ∈ s.pool, R event
  code : ∀ event, Micro.queue event ∈ s.code → R event

section
variable {Q R : SocketEvent → Prop} {s s' : WsState}

theorem Pending.congr (hi : Pending Q R s) (hw : s'.waiting = s.waiting)
    (hs : s'.service = s.service) (hp : s'.pool = s.pool)
    (hc : ∀ event, Micro.queue event ∈ s'.code → R event) : Pending Q R s' := by
  refine ⟨?_, ?_, ?_, hc⟩
  · rw [hw]
    exact hi.waiting
  · rw [hs]
    exact hi.service
  · rw [hp]
    exact hi.pool

theorem mem_waiting_push {event : SocketEvent} {p : Nat × SocketEvent}
    (h : p ∈ (s.push event).waiting) : p ∈ s.waiting ∨ p.2 = event := by
  have hw : (s.push event).waiting =
      if s.handler then (s.t.userThreadFuncs ++ [(s.queued, event)]).tail
      else s.t.userThreadFuncs ++ [(s.queued, event)] := rfl
  have hnew : ∀ queue, p ∈ queue ++ [(s.queued, event)] → p ∈ queue ∨ p.2 = event := by
    intro queue hp
    rcases List.mem_append.1 hp with hp | hp
    · exact .inl hp
    · exact .inr (List.mem_singleton.1 hp ▸ rfl)
  rw [hw] at h
  rw [waiting]
  split at h
  · next hh =>
    rw [if_pos hh]
    cases hq : s.t.userThreadFuncs with
    | nil =>
      rw [hq] at h
      cases h
    | cons front queue =>
      rw [hq] at h
      exact hnew queue h
  · next hh =>
    rw [if_neg hh]
    exact hnew _ h

theorem Pending.push (hi : Pending Q R s) {event : SocketEvent} (he : Q event) :
    Pending Q R (s.push event) := by
  refine ⟨fun p hp => ?_, hi.service, hi.pool, hi.code⟩
  rcases mem_waiting_push hp with hp | hp
  · exact hi.waiting p hp
  · exact hp ▸ he

theorem Pending.setService (hi : Pending Q R s) (ws : Nat) {v : Service}
    (hv : ∀ event last, v = .handling event last → Q event) : Pending Q R (s.setService ws v) := by
  refine ⟨hi.waiting, fun ws' event last hs => ?_, hi.pool, hi.code⟩
  simp only [WsState.setService] at hs
  split at hs
  · exact hv event last hs
  · exact hi.service ws' event last hs

theorem Pending.connect (hi : Pending Q R s) (herror : ∀ description, R (.error description))
    (type : NRtTransportType) (outcome : ConnectOutcome) : Pending Q R (s.connect type outcome) := by
  cases outcome <;> refine hi.congr rfl rfl rfl fun event he => ?_ <;>
    simp only [WsState.connect, List.mem_append, List.mem_cons, List.mem_map, Micro.queue.injEq,
      List.not_mem_nil, or_false, reduceCtorEq, and_false, exists_false, false_or] at he
  case clientThrows what => exact he ▸ herror _
  case uriThrows what => exact he ▸ herror _

theorem Pending.disconnect (hi : Pending Q R s) : Pending Q R s.disconnect := by
  unfold WsState.disconnect
  split
  · exact hi
  · refine hi.congr rfl rfl rfl fun event he => ?_
    cases List.mem_singleton.1 he

theorem Pending.send (hi : Pending Q R s) (herror : ∀ description, R (.error description))
    (built sent : Except String Unit) : Pending Q R (s.send built sent) := by
  have hthrown : ∀ what, Pending Q R { s with code := [.queue (.error what)] } := by
    intro what
    refine hi.congr rfl rfl rfl fun event he => ?_
    rw [Micro.queue.inj (List.mem_singleton.1 he)]
    exact herror what
  unfold WsState.send
  split
  · split
    · exact hthrown _
    · split
      · exact hi.congr rfl rfl rfl hi.code
      · exact hthrown _
      · exact hi
  · exact hi

/-- `tick` locks when the rest of the call is done. -/
theorem Pending.lock (hi : Pending Q R s) : Pending Q R { s with code := s.code ++ [.lock] } := by
  refine hi.congr rfl rfl rfl fun event he => ?_
  rcases List.mem_append.1 he with he | he
  · exact hi.code event he
  · cases List.mem_singleton.1 he

theorem Pending.runCode (hi : Pending Q R s) (hRQ : ∀ event, R event → Q event)
    (h : s.runCode = some s') : Pending Q R s' := by
  have hrest : ∀ {m : Micro} {code : List Micro}, s.code = m :: code →
      ∀ event, Micro.queue event ∈ code → R event := fun hc event he =>
    hi.code event (hc ▸ List.mem_cons_of_mem _ he)
  unfold WsState.runCode at h
  split at h <;> try cases Option.some.inj h
  · cases h
  · next event code hc =>
    have he : R event := hi.code event (hc ▸ List.mem_cons_self)
    split
    · exact hi.congr rfl rfl rfl hi.code
    · have hi' : Pending Q R { s with code } := hi.congr rfl rfl rfl (hrest hc)
      exact hi'.push (hRQ event he)
  · next ws code hc => split <;> exact hi.congr rfl rfl rfl (hrest hc)
  · next type code hc => exact hi.congr rfl rfl rfl (hrest hc)
  · next ws code hc =>
    have hi' : Pending Q R { s with code, connecting := s.connecting ++ [ws] } :=
      hi.congr rfl rfl rfl (hrest hc)
    exact hi'.setService ws (by rintro event last ⟨⟩)
  · next code hc =>
    split
    · exact hi.congr rfl rfl rfl hi.code
    · exact hi.congr rfl rfl rfl (hrest hc)

/-- An event leaves the queue when its handler starts. -/
theorem Pending.startEvent (hi : Pending Q R s) {i : Nat} {event : SocketEvent}
    {queue : List (Nat × SocketEvent)} (hq : s.t.userThreadFuncs = (i, event) :: queue)
    (hh : s.handler = false) :
    Pending Q R ({ s with handler := true, started := s.started ++ [i] }.fire event) := by
  have hwaiting : ∀ p ∈ queue, Q p.2 := by
    intro p hp
    refine hi.waiting p ?_
    rw [WsState.waiting, hh, hq]
    exact List.mem_cons_of_mem _ hp
  have hi' : Pending Q R { s with handler := true, started := s.started ++ [i] } := by
    refine ⟨fun p hp => hwaiting p ?_, hi.service, hi.pool, hi.code⟩
    rw [WsState.waiting, if_pos rfl] at hp
    rwa [hq] at hp
  cases event <;> exact hi'.congr rfl rfl rfl hi'.code

theorem Pending.handlerThrows (hi : Pending Q R s) (hh : s.handler = true)
    (hagain : ∀ p ∈ s.t.userThreadFuncs.head?, Q p.2) :
    Pending Q R { s with handler := false, locked := false } := by
  refine ⟨fun p hp => ?_, hi.service, hi.pool, hi.code⟩
  rw [WsState.waiting, if_neg Bool.false_ne_true] at hp
  have htail := hi.waiting
  rw [WsState.waiting, if_pos hh] at htail
  cases hq : s.t.userThreadFuncs with
  | nil =>
    have hp : p ∈ s.t.userThreadFuncs := hp
    rw [hq] at hp
    cases hp
  | cons front queue =>
    have hp : p ∈ s.t.userThreadFuncs := hp
    rw [hq] at hp hagain htail
    rcases List.mem_cons.1 hp with rfl | hp
    · exact hagain p rfl
    · exact htail p hp

theorem Pending.step {a : WsAction} (hi : Pending Q R s) (hm : Makes Q R s a)
    (h : s.step a = some s') : Pending Q R s' := by
  have hpool : ∀ event, R event → ∀ e ∈ s.pool ++ [event], R e := by
    intro event he e hmem
    rcases List.mem_append.1 hmem with hmem | hmem
    · exact hi.pool e hmem
    · exact List.mem_singleton.1 hmem ▸ he
  cases steps_of_step h with
  | connect type outcome => exact hi.connect hm.error type outcome
  | disconnect => exact hi.disconnect
  | send built sent => exact hi.send hm.error built sent
  | run s' hw h => exact hi.runCode hm.weaker h
  | tickBegin now => exact hi.lock
  | tickInactive now => exact hi.disconnect.lock
  | startEvent i event queue hq hl hh => exact hi.startEvent hq hh
  | handlerReturns hh =>
    refine hi.congr ?_ rfl rfl hi.code
    rw [WsState.waiting, if_neg Bool.false_ne_true, WsState.waiting, if_pos hh]
  | handlerThrows hh => exact hi.handlerThrows hh (hm.again rfl)
  | serviceMessage ws msg now event hs hmsg =>
    have hi' : Pending Q R { s with t := { s.t with lastReceivedMessageTimeMs := now } } :=
      hi.congr rfl rfl rfl hi.code
    refine hi'.setService ws ?_
    rintro event' last ⟨⟩
    exact hm.message ws msg now event rfl hmsg
  | serviceClose ws code reason hs =>
    refine hi.setService ws ?_
    rintro event last ⟨⟩
    exact hm.closed ws _
  | serviceQueues ws event last hs =>
    refine (hi.push (hi.service ws event last hs)).setService ws fun event' last' he => ?_
    split at he <;> cases he
  | connectDone ws now =>
    exact ⟨hi.waiting, hi.service, hpool _ (hm.opened ws now rfl), hi.code⟩
  | connectFails ws what =>
    exact ⟨hi.waiting, hi.service, hpool _ (hm.error _), hi.code⟩
  | taskFails description =>
    exact ⟨hi.waiting, hi.service, hpool _ (hm.error _), hi.code⟩
  | poolQueues i event hpool =>
    have hi' : Pending Q R { s with pool := s.pool.eraseIdx i } :=
      ⟨hi.waiting, hi.service, fun e he => hi.pool e (List.mem_of_mem_eraseIdx he), hi.code⟩
    exact hi'.push (hm.weaker event (hi.pool event (List.mem_of_getElem? hpool)))
  -- the other steps queue nothing
  | _ => exact hi.congr rfl rfl rfl hi.code

end

/-! ## Locking -/

/-- The user thread never locks `_mutex` twice, and never waits under it for a
service thread, which would have to lock it before it is gone. -/
structure DeadlockFree (s : WsState) : Prop where
  noSelfLock : s.selfLock = false
  noWait : ∀ ws, s.locked = true → s.waits = some ws → (s.service ws).quiet = true

/-- Destroying the current websocket does not wait. -/
def clientQuiet (s : WsState) : Bool := s.t.wsClient.all fun ws => (s.service ws).quiet

/-- While `tick` holds the lock, no `connect` or `send` fails, no `tick` begins,
and `connect` and `disconnect` destroy no websocket whose thread still runs. -/
def lockable (s : WsState) : WsAction → Bool
  | .connect _ outcome => !s.locked || (outcome == .started && s.clientQuiet)
  | .disconnect => !s.locked || s.clientQuiet
  | .send built sent =>
    !s.locked || !s.t.connected || (built.isOk && (s.t.wsClient.isNone || sent.isOk))
  | .tickBegin _ => !s.locked
  | _ => true

/-- Parts of a call that neither lock nor wait. -/
def calm (s : WsState) : Micro → Bool
  | .queue _ => false
  | .lock => false
  | .destroy ws => (s.service ws).quiet
  | _ => true

/-- The part of `DeadlockFree` that one step keeps: under the lock, what is left of
a call is calm, and a part that starts a thread or locks is the last of its call. -/
structure Calm (s : WsState) : Prop where
  noSelfLock : s.selfLock = false
  noWait : s.locked = true → s.waits = none
  code : s.locked = true → ∀ m ∈ s.code, s.calm m = true
  ends : ∀ m ∈ s.code.dropLast, m.last = false

theorem ends_nil : ∀ m ∈ ([] : List Micro).dropLast, m.last = false := by
  intro m hm
  cases hm

theorem ends_singleton {m : Micro} : ∀ m' ∈ [m].dropLast, m'.last = false := by
  intro m' hm
  cases hm

theorem calm_nil {s : WsState} : ∀ m ∈ ([] : List Micro), s.calm m = true := by
  intro m hm
  cases hm

/-- A step that leaves the user thread alone. -/
theorem Calm.congr {s s' : WsState} (hi : Calm s) (hs : s'.selfLock = s.selfLock)
    (hl : s'.locked = s.locked) (hw : s'.waits = s.waits) (hc : s'.code = s.code)
    (hq : ∀ ws, (s.service ws).quiet = true → (s'.service ws).quiet = true) : Calm s' := by
  refine ⟨hs.trans hi.noSelfLock, ?_, ?_, ?_⟩
  · rw [hl, hw]
    exact hi.noWait
  · rw [hl, hc]
    intro hlock m hm
    have := hi.code hlock m hm
    cases m with
    | destroy ws => exact hq ws this
    | queue => exact this
    | lock => exact this
    | setup => rfl
    | start => rfl
  · rw [hc]
    exact hi.ends

theorem quiet_setService {s : WsState} {ws : Nat} (v : Service) (h : (s.service ws).quiet = false)
    (ws' : Nat) (hq : (s.service ws').quiet = true) : ((s.setService ws v).service ws').quiet = true := by
  simp only [setService]
  split
  · next heq => rw [heq, h] at hq; cases hq
  · exact hq

/-- A call of the user that leaves `code` behind. -/
theorem Calm.call {s s' : WsState} (hi : Calm s) (hs : s'.selfLock = s.selfLock)
    (hl : s'.locked = s.locked) (hw : s'.waits = s.waits)
    (hcode : s.locked = true → ∀ m ∈ s'.code, s'.calm m = true)
    (hends : ∀ m ∈ s'.code.dropLast, m.last = false) : Calm s' :=
  ⟨hs.trans hi.noSelfLock, by rw [hl, hw]; exact hi.noWait, by rw [hl]; exact hcode, hends⟩

theorem code_nil_of_userCode {s : WsState} (h : s.userCode = true) : s.code = [] := by
  simp only [userCode, Bool.and_eq_true, List.isEmpty_iff] at h
  exact h.1.1.1

theorem Calm.connect {s : WsState} (hi : Calm s) (type : NRtTransportType) (outcome : ConnectOutcome)
    (hok : s.lockable (.connect type outcome) = true) : Calm (s.connect type outcome) := by
  cases hl : s.locked with
  | false =>
    have hno : ¬ s.locked = true := by simp [hl]
    cases outcome with
    | clientThrows what => exact hi.call rfl rfl rfl (fun h => absurd h hno) ends_singleton
    | uriThrows what =>
      refine hi.call rfl rfl rfl (fun h => absurd h hno) ?_
      cases hc : s.t.wsClient <;> simp [WsState.connect, hc, Micro.last]
    | started =>
      refine hi.call rfl rfl rfl (fun h => absurd h hno) ?_
      cases hc : s.t.wsClient <;> simp [WsState.connect, hc, Micro.last]
  | true =>
    simp only [lockable, hl, Bool.not_true, Bool.false_or, Bool.and_eq_true, beq_iff_eq] at hok
    obtain ⟨rfl, hq⟩ := hok
    refine hi.call rfl rfl rfl (fun _ m hm => ?_) ?_
    · cases hc : s.t.wsClient with
      | none =>
        simp only [WsState.connect, hc, Option.toList_none, List.map_nil, List.nil_append,
          List.mem_cons, List.not_mem_nil, or_false] at hm
        rcases hm with rfl | rfl <;> rfl
      | some ws =>
        simp only [WsState.connect, hc, Option.toList_some, List.map_cons, List.map_nil,
          List.singleton_append, List.mem_cons, List.not_mem_nil, or_false] at hm
        simp only [clientQuiet, hc, Option.all_some] at hq
        rcases hm with rfl | rfl | rfl
        · exact hq
        · rfl
        · rfl
    · cases hc : s.t.wsClient <;> simp [WsState.connect, hc, Micro.last]

theorem Calm.disconnect {s : WsState} (hi : Calm s) (hok : (!s.locked || s.clientQuiet) = true) :
    Calm s.disconnect := by
  unfold WsState.disconnect
  split
  · exact hi
  · next ws hc =>
    refine hi.call rfl rfl rfl (fun hl m hm => ?_) ends_singleton
    simp only [hl, Bool.not_true, Bool.false_or, clientQuiet, hc, Option.all_some] at hok
    obtain rfl := List.mem_singleton.1 hm
    exact hok

theorem locked_disconnect (s : WsState) : s.disconnect.locked = s.locked := by
  unfold WsState.disconnect
  split <;> rfl

/-- A `disconnect` on which a lock follows is well ended. -/
theorem disconnect_ends {s : WsState} (hc : s.code = []) :
    ∀ m ∈ (s.disconnect.code ++ [Micro.lock]).dropLast, m.last = false := by
  intro m hm
  rw [List.dropLast_concat] at hm
  unfold WsState.disconnect at hm
  split at hm
  · rw [hc] at hm
    cases hm
  · rw [List.mem_singleton.1 hm]
    rfl

theorem Calm.send {s : WsState} (hi : Calm s) (built sent : Except String Unit)
    (hok : s.lockable (.send built sent) = true) : Calm (s.send built sent) := by
  unfold WsState.send
  split
  · next hc =>
    simp only [lockable, hc, Bool.not_true, Bool.or_false] at hok
    cases built with
    | error what =>
      have hl : ¬ s.locked = true := by simpa [Except.isOk, Except.toBool] using hok
      exact hi.call rfl rfl rfl (fun h => absurd h hl) ends_singleton
    | ok _ =>
      simp only
      split
      · exact hi.congr rfl rfl rfl rfl fun _ h => h
      · next ws what hws =>
        have hl : ¬ s.locked = true := by simpa [Except.isOk, Except.toBool, hws] using hok
        exact hi.call rfl rfl rfl (fun h => absurd h hl) ends_singleton
      · exact hi
  · exact hi

/-- What is left of a call after its first part is calm and well ended too. -/
theorem Calm.rest {s : WsState} (hi : Calm s) {m : Micro} {rest : List Micro}
    (hc : s.code = m :: rest) :
    (s.locked = true → ∀ m' ∈ rest, s.calm m' = true) ∧
      (∀ m' ∈ rest.dropLast, m'.last = false) ∧ (m.last = true → rest = []) := by
  have hcode := hi.code
  have hends := hi.ends
  rw [hc] at hcode hends
  refine ⟨fun hl m' hm' => hcode hl m' (List.mem_cons_of_mem _ hm'), ?_, ?_⟩
  · cases rest with
    | nil =>
      intro m' hm'
      cases hm'
    | cons m1 rest =>
      rw [List.dropLast_cons_cons] at hends
      intro m' hm'
      exact hends m' (List.mem_cons_of_mem _ hm')
  · intro hm
    cases rest with
    | nil => rfl
    | cons m1 rest =>
      rw [List.dropLast_cons_cons] at hends
      rw [hends m List.mem_cons_self] at hm
      cases hm

/-- Under the lock the next part of a call is calm. -/
theorem Calm.head {s : WsState} (hi : Calm s) (hl : s.locked = true) {m : Micro}
    {rest : List Micro} (hc : s.code = m :: rest) : s.calm m = true := by
  apply hi.code hl
  rw [hc]
  exact List.mem_cons_self

theorem Calm.runCode {s s' : WsState} (hi : Calm s) (hw : s.waits = none)
    (h : s.runCode = some s') : Calm s' := by
  unfold WsState.runCode at h
  split at h
  · cases h
  · next event code hc =>
    obtain ⟨-, hr, -⟩ := hi.rest hc
    have hl : ¬ s.locked = true := by
      intro hl
      cases hi.head hl hc
    rw [if_neg hl] at h
    cases h
    exact ⟨hi.noSelfLock, hi.noWait, fun h => absurd h hl, hr⟩
  · next ws code hc =>
    obtain ⟨hr, hd, -⟩ := hi.rest hc
    cases h
    split
    · exact ⟨hi.noSelfLock, hi.noWait, hr, hd⟩
    · next hq =>
      have hl : ¬ s.locked = true := fun hl => hq (hi.head hl hc)
      exact ⟨hi.noSelfLock, fun h => absurd h hl, fun h => absurd h hl, hd⟩
  · next type code hc =>
    obtain ⟨hr, hd, -⟩ := hi.rest hc
    cases h
    exact ⟨hi.noSelfLock, hi.noWait, hr, hd⟩
  · next ws code hc =>
    obtain ⟨-, -, hlast⟩ := hi.rest hc
    obtain rfl := hlast rfl
    cases h
    exact ⟨hi.noSelfLock, hi.noWait, fun _ => calm_nil, ends_nil⟩
  · next code hc =>
    obtain ⟨-, -, hlast⟩ := hi.rest hc
    obtain rfl := hlast rfl
    have hl : ¬ s.locked = true := by
      intro hl
      cases hi.head hl hc
    rw [if_neg hl] at h
    cases h
    exact ⟨hi.noSelfLock, fun _ => hw, fun _ => calm_nil, ends_nil⟩

theorem Calm.step {s s' : WsState} {a : WsAction} (hi : Calm s) (hok : s.lockable a = true)
    (h : s.step a = some s') : Calm s' := by
  cases steps_of_step h with
  | connect type outcome => exact hi.connect type outcome hok
  | disconnect => exact hi.disconnect hok
  | send built sent => exact hi.send built sent hok
  | run s' hw h => exact hi.runCode hw h
  | joined ws => exact ⟨hi.noSelfLock, fun _ => rfl, hi.code, hi.ends⟩
  | tickBegin now hu =>
    have hl : ¬ s.locked = true := by simpa [lockable] using hok
    have hc := code_nil_of_userCode hu
    exact ⟨hi.noSelfLock, hi.noWait, fun h => absurd h hl, by simp [hc]⟩
  | tickInactive now hu =>
    have hl : ¬ s.locked = true := by simpa [lockable] using hok
    have hd := hi.disconnect (by simp [hl])
    refine ⟨hd.noSelfLock, hd.noWait, fun h => ?_, disconnect_ends (code_nil_of_userCode hu)⟩
    rw [← locked_disconnect] at hl
    exact absurd h hl
  | startEvent i event => cases event <;> exact hi.congr rfl rfl rfl rfl fun _ h => h
  | handlerThrows => exact ⟨hi.noSelfLock, by rintro ⟨⟩, by rintro ⟨⟩, hi.ends⟩
  | tickEnd => exact ⟨hi.noSelfLock, by rintro ⟨⟩, by rintro ⟨⟩, hi.ends⟩
  | serviceMessage ws msg now event hs =>
    exact hi.congr rfl rfl rfl rfl (quiet_setService _ (by rw [hs]; rfl))
  | serviceClose ws code reason hs =>
    exact hi.congr rfl rfl rfl rfl (quiet_setService _ (by rw [hs]; rfl))
  | serviceQueues ws event last hs =>
    exact hi.congr rfl rfl rfl rfl (quiet_setService _ (by rw [hs]; rfl))
  -- the other steps leave the user thread and the service threads alone
  | _ => exact hi.congr rfl rfl rfl rfl fun _ h => h

/-- **Locking.**  In every run in which no call fails and no running websocket is
destroyed under the lock, the transport does not deadlock. -/
theorem deadlock_free {s : WsState} (h : Reach step (fun s a => lockable s a = true) {} s) :
    DeadlockFree s := by
  have hi : Calm s :=
    h.invariant ⟨rfl, fun _ => rfl, by rintro ⟨⟩, by simp⟩ fun _ _ _ hi hok hs => hi.step hok hs
  refine ⟨hi.noSelfLock, fun ws hl hw => ?_⟩
  rw [hi.noWait hl] at hw
  cases hw

/-- A handler sends, and when the websocket is closed another one connects again. -/
def reconnectingRun : List WsAction :=
  openingRun ++ [.send (.ok ()) (.ok ()), .handlerReturns, .tickEnd, .serviceClose 0 1000 "",
    .serviceQueues 0, .tickBegin 3, .run, .startEvent, .connect .binary .started, .run, .run, .run,
    .handlerReturns, .tickEnd]

theorem deadlock_free_reconnectingRun :
    ∃ s, exec step (fun s a => lockable s a = true) {} reconnectingRun = some s ∧
      DeadlockFree s := by
  have h : (exec step (fun s a => lockable s a = true) {} reconnectingRun).isSome = true := by decide
  exact ⟨_, (Option.some_get h).symm, deadlock_free (Reach.get_exec reconnectingRun h)⟩

/-- Handlers that lock themselves out (a `connect` that fails) or wait under the
lock for a websocket that has still to be closed (`disconnect`). -/
theorem not_deadlock_free :
    (∃ s, Reach step anyStep {} s ∧ s.selfLock = true ∧ ¬ DeadlockFree s) ∧
    ∃ s, Reach step anyStep {} s ∧ s.locked = true ∧ s.waits = some 0 ∧ ¬ DeadlockFree s := by
  have h : (exec step anyStep {} (openingRun ++
      [.connect .binary (.clientThrows "config"), .run])).isSome = true := by decide
  have h' : (exec step anyStep {} (openingRun ++ [.disconnect, .run])).isSome = true := by decide
  refine ⟨⟨_, Reach.get_exec _ h, rfl, fun hs => ?_⟩, ⟨_, Reach.get_exec _ h', rfl, rfl, fun hs => ?_⟩⟩
  · cases hs.noSelfLock
  · cases hs.noWait 0 rfl rfl

end WsState

end NakamaCpp.Realtime
