import NakamaCpp.Realtime.WebsocketRun

/-!
# The end of the realtime objects

`NRtClient` of src/realtime/NRtClient.cpp stores four functions that capture it in its
transport, which the user may hold too; the transport of src/realtime/NWebsocketCppRest.cpp
captures itself in the continuations of its tasks.  The transport goes with the last
pointer to it.  `~NWebsocketCppRest` closes the websocket and waits for its service thread,
not for continuations; `~NRtClient` leaves its functions where they are.

    Reach step lifetimeOk {} s  →  Untouched s                        (untouched)
-/

namespace NakamaCpp.Realtime

open Transition

/-! ## Data -/

/-- A task with a continuation that captures the transport; that of `connect` is in
`WsState.connecting`. -/
inductive Task
  | send
  | close
deriving DecidableEq, Repr

/-- What the continuation of a failed task adds with `addErrorEvent`. -/
def Task.description (what : String) : Task → String
  | .send => "[NWebsocketCppRest::send] exception: " ++ what
  | .close => "[NWebsocketCppRest::disconnect] exception: " ++ what

/-- Whom a function in the transport captures. -/
inductive Owner
  | client (n : Nat)
  | user
deriving DecidableEq, Repr

inductive Slot
  | connect
  | error
  | disconnect
  | message
deriving DecidableEq, Repr

/-- The four functions that `NRtTransportInterface` stores. -/
abbrev TransportCallbacks := Slot → Option Owner

/-- The slot that an event calls. -/
def SocketEvent.slot : SocketEvent → Option Slot
  | .opened _ => some .connect
  | .closed .. => some .disconnect
  | .message .. => some .message
  | .error _ => some .error
  | .ping => none
  | .pong => none

/-- A call that the user makes on the transport. -/
def WsAction.call : WsAction → Bool
  | .connect .. | .disconnect | .send .. | .setActivityTimeout _ | .tickBegin _ => true
  | _ => false

/-- A continuation, a handler, or the rest of a `tick` that is running. -/
def WsAction.background : WsAction → Bool
  | .serviceMessage .. | .serviceClose .. | .serviceQueues _ | .connectDone .. | .poolQueues _
  | .startEvent | .handlerReturns | .handlerThrows | .tickEnd => true
  | _ => false

structure RtObjects where
  ws : WsState := {}
  /-- tasks whose continuation has not run -/
  tasks : List Task := []
  callbacks : TransportCallbacks := fun _ => none
  /-- the user holds the transport -/
  held : Bool := true
  /-- the clients that hold it -/
  clients : List Nat := []
  /-- clients created so far -/
  made : Nat := 0
  /-- `~NWebsocketCppRest` has been entered -/
  destroying : Bool := false
  /-- it has returned -/
  destroyed : Bool := false
  /-- something has used the transport after that -/
  touched : Bool := false
  /-- a function that captures a destroyed client has been called -/
  stale : Bool := false

inductive RtObjectsAction
  | newClient
  | setCallback (slot : Slot) (set : Bool)
  /-- `~NRtClient` -/
  | destroyClient (n : Nat)
  /-- the user lets go of the transport -/
  | releaseTransport
  | transport (a : WsAction)
  /-- the continuation of a task of `send` or `close` -/
  | taskDone (i : Nat) (result : Except String Unit)
  | destructorReturns

namespace WsState

/-! ## Service threads -/

/-- A service thread that still runs belongs to the current websocket, or to one that the
user thread is about to destroy. -/
structure Owned (s : WsState) : Prop where
  busy : ∀ w, (s.service w).quiet = false →
    s.t.wsClient = some w ∨ s.waits = some w ∨ Micro.destroy w ∈ s.code
  start : ∀ w, Micro.start w ∈ s.code → s.t.wsClient = some w
  handler : s.handler = true → s.locked = true

theorem waits_of_userCode {s : WsState} (h : s.userCode = true) : s.waits = none := by
  simp only [userCode, Bool.and_eq_true, Option.isNone_iff_eq_none] at h
  exact h.1.1.2

/-- A step that leaves the websockets and the user thread alone. -/
theorem Owned.congr {s s' : WsState} (hi : Owned s) (hc : s'.t.wsClient = s.t.wsClient)
    (hw : s'.waits = s.waits) (hcode : s'.code = s.code) (hh : s'.handler = true → s'.locked = true)
    (hq : ∀ w, (s'.service w).quiet = false → (s.service w).quiet = false) : Owned s' := by
  refine ⟨fun w h => ?_, fun w h => ?_, hh⟩
  · rw [hc, hw, hcode]
    exact hi.busy w (hq w h)
  · rw [hcode] at h
    rw [hc]
    exact hi.start w h

/-- A call that replaces the websocket destroys the old one. -/
theorem Owned.replace {s s' : WsState} (hi : Owned s) (hu : s.userCode = true)
    (hs : s'.service = s.service) (hh : s'.handler = s.handler)
    (hl : s'.locked = s.locked)
    (hcode : ∀ w, s.t.wsClient = some w → s'.t.wsClient = some w ∨ Micro.destroy w ∈ s'.code)
    (hstart : ∀ w, Micro.start w ∈ s'.code → s'.t.wsClient = some w) : Owned s' := by
  refine ⟨fun w h => ?_, hstart, by rw [hh, hl]; exact hi.handler⟩
  rw [hs] at h
  rcases hi.busy w h with h | h | h
  · rcases hcode w h with h | h
    · exact .inl h
    · exact .inr (.inr h)
  · rw [waits_of_userCode hu] at h
    cases h
  · rw [code_nil_of_userCode hu] at h
    cases h

theorem Owned.connect {s : WsState} (hi : Owned s) (hu : s.userCode = true) (type : NRtTransportType)
    (outcome : ConnectOutcome) : Owned (s.connect type outcome) := by
  have hdestroy : ∀ w rest, s.t.wsClient = some w →
      Micro.destroy w ∈ s.t.wsClient.toList.map Micro.destroy ++ rest := by
    intro w rest hw
    rw [hw]
    exact List.mem_cons_self
  cases outcome with
  | clientThrows what =>
    refine hi.replace hu rfl rfl rfl (fun w h => .inl h) fun w h => ?_
    cases List.mem_singleton.1 h
  | uriThrows what =>
    refine hi.replace hu rfl rfl rfl (fun w h => .inr (hdestroy w _ h)) fun w h => ?_
    simp [WsState.connect] at h
  | started =>
    refine hi.replace hu rfl rfl rfl (fun w h => .inr (hdestroy w _ h)) fun w h => ?_
    simp only [WsState.connect, List.mem_append, List.mem_map, List.mem_cons, reduceCtorEq, and_false,
      exists_false, false_or, Micro.start.injEq, List.not_mem_nil, or_false] at h
    rw [h]
    rfl

theorem Owned.disconnect {s : WsState} (hi : Owned s) (hu : s.userCode = true) : Owned s.disconnect := by
  unfold WsState.disconnect
  split
  · exact hi
  · next ws hws =>
    refine hi.replace hu rfl rfl rfl (fun w h => .inr ?_) fun w h => ?_
    · rw [hws] at h
      obtain rfl := Option.some.inj h
      exact List.mem_cons_self
    · cases List.mem_singleton.1 h

theorem Owned.send {s : WsState} (hi : Owned s) (hu : s.userCode = true) (built sent : Except String Unit) :
    Owned (s.send built sent) := by
  have hthrown : ∀ event, Owned { s with code := [.queue event] } := by
    intro event
    refine hi.replace hu rfl rfl rfl (fun w h => .inl h) fun w h => ?_
    cases List.mem_singleton.1 h
  unfold WsState.send
  split
  · split
    · exact hthrown _
    · split
      · exact hi.congr rfl rfl rfl hi.handler fun _ h => h
      · exact hthrown _
      · exact hi
  · exact hi

/-- `tick` locks when the rest of the call is done. -/
theorem Owned.lock {s : WsState} (hi : Owned s) : Owned { s with code := s.code ++ [.lock] } := by
  refine ⟨fun w h => ?_, fun w h => ?_, hi.handler⟩
  · rcases hi.busy w h with h | h | h
    · exact .inl h
    · exact .inr (.inl h)
    · exact .inr (.inr (List.mem_append_left _ h))
  · rcases List.mem_append.1 h with h | h
    · exact hi.start w h
    · cases List.mem_singleton.1 h

/-- What is left of a call after its first part. -/
theorem Owned.rest {s : WsState} (hi : Owned s) {m : Micro} {rest : List Micro} (hc : s.code = m :: rest)
    (hm : ∀ w, m ≠ .destroy w) : Owned { s with code := rest } := by
  refine ⟨fun w h => ?_, fun w h => hi.start w (hc ▸ List.mem_cons_of_mem _ h), hi.handler⟩
  rcases hi.busy w h with h | h | h
  · exact .inl h
  · exact .inr (.inl h)
  · rw [hc] at h
    rcases List.mem_cons.1 h with rfl | h
    · exact absurd rfl (hm w)
    · exact .inr (.inr h)

theorem Owned.runCode {s s' : WsState} (hi : Owned s) (hw : s.waits = none) (h : s.runCode = some s') :
    Owned s' := by
  unfold WsState.runCode at h
  split at h
  · cases h
  · next event code hc =>
    obtain rfl := Option.some.inj h
    split
    · exact hi.congr rfl rfl rfl hi.handler fun _ h => h
    · have hr := hi.rest hc (by rintro w ⟨⟩)
      exact hr.congr rfl rfl rfl hr.handler fun _ h => h
  · next ws code hc =>
    obtain rfl := Option.some.inj h
    have hbusy : ∀ w, (s.service w).quiet = false →
        s.t.wsClient = some w ∨ w = ws ∨ Micro.destroy w ∈ code := by
      intro w h
      rcases hi.busy w h with h | h | h
      · exact .inl h
      · rw [hw] at h
        cases h
      · rw [hc] at h
        rcases List.mem_cons.1 h with h | h
        · exact .inr (.inl (Micro.destroy.inj h))
        · exact .inr (.inr h)
    have hstart : ∀ w, Micro.start w ∈ code → s.t.wsClient = some w := fun w h =>
      hi.start w (hc ▸ List.mem_cons_of_mem _ h)
    split
    · next hq =>
      refine ⟨fun w hwq => ?_, hstart, hi.handler⟩
      rcases hbusy w hwq with h' | rfl | h'
      · exact .inl h'
      · have hwq : (s.service w).quiet = false := hwq
        rw [hq] at hwq
        cases hwq
      · exact .inr (.inr h')
    · refine ⟨fun w h => ?_, hstart, hi.handler⟩
      rcases hbusy w h with h' | rfl | h'
      · exact .inl h'
      · exact .inr (.inl rfl)
      · exact .inr (.inr h')
  · next type code hc =>
    obtain rfl := Option.some.inj h
    have hr := hi.rest hc (by rintro w ⟨⟩)
    exact hr.congr rfl rfl rfl hr.handler fun _ h => h
  · next ws code hc =>
    obtain rfl := Option.some.inj h
    have hr := hi.rest hc (by rintro w ⟨⟩)
    refine ⟨fun w h => ?_, hr.start, hr.handler⟩
    by_cases hws : w = ws
    · rw [hws]
      exact .inl (hi.start ws (hc ▸ List.mem_cons_self))
    · refine hr.busy w ?_
      simp only [setService, if_neg hws] at h
      exact h
  · next code hc =>
    obtain rfl := Option.some.inj h
    have hr := hi.rest hc (by rintro w ⟨⟩)
    split
    · exact hi.congr rfl rfl rfl hi.handler fun _ h => h
    · exact ⟨hr.busy, hr.start, fun _ => rfl⟩

/-- A running thread that goes on runs still. -/
theorem busy_setService {s : WsState} {ws : Nat} (v : Service) (h : (s.service ws).quiet = false)
    (w : Nat) (hq : ((s.setService ws v).service w).quiet = false) : (s.service w).quiet = false := by
  simp only [setService] at hq
  split at hq
  · next heq =>
    rw [heq]
    exact h
  · exact hq

theorem Owned.step {s s' : WsState} {a : WsAction} (hi : Owned s) (h : s.step a = some s') : Owned s' := by
  cases steps_of_step h with
  | connect type outcome hu => exact hi.connect hu type outcome
  | disconnect hu => exact hi.disconnect hu
  | send built sent hu => exact hi.send hu built sent
  | run s' hw h => exact hi.runCode hw h
  | joined ws hws hdone =>
    refine ⟨fun w h => ?_, hi.start, hi.handler⟩
    rcases hi.busy w h with h' | h' | h'
    · exact .inl h'
    · rw [hws] at h'
      obtain rfl := Option.some.inj h'
      have h : (s.service ws).quiet = false := h
      rw [hdone] at h
      cases h
    · exact .inr (.inr h')
  | tickBegin now => exact hi.lock
  | tickInactive now hu => exact (hi.disconnect hu).lock
  | startEvent i event queue hq hl =>
    cases event <;> exact hi.congr rfl rfl rfl (fun _ => hl) fun _ h => h
  | handlerReturns => exact hi.congr rfl rfl rfl (by rintro ⟨⟩) fun _ h => h
  | handlerThrows => exact hi.congr rfl rfl rfl (by rintro ⟨⟩) fun _ h => h
  | tickEnd hl hh =>
    refine hi.congr rfl rfl rfl (fun h => ?_) fun _ h => h
    rw [hh] at h
    cases h
  | serviceMessage ws msg now event hs =>
    exact hi.congr rfl rfl rfl hi.handler (busy_setService _ (by rw [hs]; rfl))
  | serviceClose ws code reason hs =>
    exact hi.congr rfl rfl rfl hi.handler (busy_setService _ (by rw [hs]; rfl))
  | serviceQueues ws event last hs =>
    have hq : (s.service ws).quiet = false := by rw [hs]; rfl
    exact hi.congr rfl rfl rfl hi.handler (busy_setService _ hq)
  -- the other steps leave the user thread and the service threads alone
  | _ => exact hi.congr rfl rfl rfl hi.handler fun _ h => h

/-- The user thread is in `~NWebsocketCppRest`, outside `tick`. -/
structure Ending (s : WsState) : Prop where
  unlocked : s.locked = false
  noClient : s.t.wsClient = none
  code : ∀ m ∈ s.code, ∃ w, m = Micro.destroy w

theorem Ending.disconnect {s : WsState} (hu : s.userCode = true) (hlocked : s.locked = false) :
    Ending s.disconnect := by
  unfold WsState.disconnect
  split
  · next hws =>
    refine ⟨hlocked, hws, fun m hm => ?_⟩
    rw [code_nil_of_userCode hu] at hm
    cases hm
  · next ws hws =>
    exact ⟨hlocked, rfl, fun m hm => ⟨ws, List.mem_singleton.1 hm⟩⟩

/-- No handler runs outside `tick`. -/
theorem Ending.noHandler {s : WsState} (hi : Ending s) (ho : Owned s) : s.handler = false := by
  cases hh : s.handler with
  | true =>
    have hl := ho.handler hh
    rw [hi.unlocked] at hl
    cases hl
  | false => rfl

theorem Ending.runCode {s s' : WsState} (hi : Ending s) (h : s.runCode = some s') : Ending s' := by
  cases hc : s.code with
  | nil =>
    simp only [WsState.runCode, hc] at h
    cases h
  | cons m code =>
    have hrest : ∀ m ∈ code, ∃ w, m = Micro.destroy w := fun m hm =>
      hi.code m (hc ▸ List.mem_cons_of_mem _ hm)
    obtain ⟨w, rfl⟩ := hi.code m (hc ▸ List.mem_cons_self)
    simp only [WsState.runCode, hc] at h
    obtain rfl := Option.some.inj h
    split
    · exact ⟨hi.unlocked, hi.noClient, hrest⟩
    · exact ⟨hi.unlocked, hi.noClient, hrest⟩

theorem Ending.step {s s' : WsState} {a : WsAction} (hi : Ending s) (ho : Owned s) (hcall : a.call = false)
    (h : s.step a = some s') : Ending s' := by
  have hhandler := hi.noHandler ho
  have hunlocked := hi.unlocked
  cases steps_of_step h with
  | connect => cases hcall
  | disconnect => cases hcall
  | send => cases hcall
  | setActivityTimeout => cases hcall
  | tickBegin => cases hcall
  | tickInactive => cases hcall
  | run s' hw h => exact hi.runCode h
  | startEvent i event queue hq hl =>
    rw [hunlocked] at hl
    cases hl
  | handlerReturns hh =>
    rw [hhandler] at hh
    cases hh
  | handlerThrows hh =>
    rw [hhandler] at hh
    cases hh
  | tickEnd hl =>
    rw [hunlocked] at hl
    cases hl
  -- the other threads
  | _ => exact ⟨hi.unlocked, hi.noClient, hi.code⟩

/-- Nothing can move any more but `send` and `close` tasks. -/
theorem Ending.still {s : WsState} (hi : Ending s) (ho : Owned s) (hcode : s.code = [])
    (hw : s.waits = none) (hconnecting : s.connecting = []) (hpool : s.pool = []) {a : WsAction}
    (ha : a.background = true) : s.step a = none := by
  have hquiet : ∀ w, (s.service w).quiet = false → False := by
    intro w hq
    rcases ho.busy w hq with h | h | h
    · rw [hi.noClient] at h
      cases h
    · rw [hw] at h
      cases h
    · rw [hcode] at h
      cases h
  have hhandler := hi.noHandler ho
  have hunlocked := hi.unlocked
  rw [Option.eq_none_iff_forall_ne_some]
  intro s' h
  cases steps_of_step h with
  | connect => cases ha
  | disconnect => cases ha
  | send => cases ha
  | setActivityTimeout => cases ha
  | tickBegin => cases ha
  | tickInactive => cases ha
  | run => cases ha
  | joined => cases ha
  | taskFails => cases ha
  | startEvent i event queue hq hl =>
    rw [hunlocked] at hl
    cases hl
  | handlerReturns hh =>
    rw [hhandler] at hh
    cases hh
  | handlerThrows hh =>
    rw [hhandler] at hh
    cases hh
  | tickEnd hl =>
    rw [hunlocked] at hl
    cases hl
  | serviceMessage ws msg now event hs => exact hquiet ws (by rw [hs]; rfl)
  | serviceIgnores ws msg now hs => exact hquiet ws (by rw [hs]; rfl)
  | serviceClose ws code reason hs => exact hquiet ws (by rw [hs]; rfl)
  | serviceQueues ws event last hs => exact hquiet ws (by rw [hs]; rfl)
  | connectDone ws now hws =>
    rw [hconnecting] at hws
    cases hws
  | connectFails ws what now hws =>
    rw [hconnecting] at hws
    cases hws
  | poolQueues i event hevent =>
    rw [hpool] at hevent
    cases hevent

end WsState

namespace RtObjects

/-! ## Steps -/

/-- The tasks that a step starts. -/
def startedTasks (s : WsState) : WsAction → List Task
  | .disconnect => if s.t.wsClient.isSome then [.close] else []
  | .tickBegin now => if s.t.inactive now && s.t.wsClient.isSome then [.close] else []
  | .send (.ok ()) (.ok ()) => if s.t.connected && s.t.wsClient.isSome then [.send] else []
  | _ => []

/-- A client that has been created and destroyed. -/
def gone (s : RtObjects) (n : Nat) : Bool := decide (n < s.made) && decide (n ∉ s.clients)

/-- The event that a step starts calls a function that captures a destroyed client. -/
def callsGone (s : RtObjects) : WsAction → Bool
  | .startEvent =>
    match s.ws.t.userThreadFuncs.head? with
    | some (_, event) =>
      match event.slot.bind s.callbacks with
      | some (.client n) => s.gone n
      | _ => false
    | none => false
  | _ => false

/-- `~NWebsocketCppRest`, as far as `close` and the destructor of the websocket. -/
def destroyTransport (s : RtObjects) : RtObjects :=
  { s with
    ws := s.ws.disconnect
    tasks := s.tasks ++ startedTasks s.ws .disconnect
    destroying := true }

/-- Let go of a pointer to the transport. -/
def release (s : RtObjects) : RtObjects :=
  if s.held || !s.clients.isEmpty then s else s.destroyTransport

def step (s : RtObjects) : RtObjectsAction → Option RtObjects
  | .newClient =>
    if s.held && s.ws.userCode then
      some
        { s with
          clients := s.clients ++ [s.made]
          made := s.made + 1
          callbacks := fun _ => some (.client s.made) }
    else none
  | .setCallback slot set =>
    if s.held && s.ws.userCode then
      some
        { s with
          callbacks := fun slot' =>
            if slot' = slot then if set then some .user else none else s.callbacks slot' }
    else none
  | .destroyClient n =>
    if n ∈ s.clients ∧ s.ws.userCode = true then
      some { s with clients := s.clients.filter fun m => m != n }.release
    else none
  | .releaseTransport =>
    if s.held && s.ws.userCode then some { s with held := false }.release else none
  | .transport a =>
    if s.destroyed then
      if a.background then (s.ws.step a).map fun _ => { s with touched := true } else none
    else
      match a with
      | .taskFails _ => none
      | a =>
        if s.destroying && a.call then none
        else
          (s.ws.step a).map fun ws =>
            { s with
              ws
              tasks := s.tasks ++ startedTasks s.ws a
              stale := s.stale || s.callsGone a }
  | .taskDone i result =>
    match s.tasks[i]?, result with
    | none, _ => none
    | some _, .ok () => some { s with tasks := s.tasks.eraseIdx i }
    | some task, .error what =>
      let s := { s with tasks := s.tasks.eraseIdx i }
      if s.destroyed then some { s with touched := true }
      else (s.ws.step (.taskFails (task.description what))).map fun ws => { s with ws }
  | .destructorReturns =>
    if s.destroying && !s.destroyed && s.ws.code.isEmpty && s.ws.waits.isNone && !s.ws.selfLock then
      some { s with destroyed := true }
    else none

/-! ## The end -/

/-- Nothing uses the transport after its end, and while it is there no function in it
captures a client that is not. -/
structure Untouched (s : RtObjects) : Prop where
  transport : s.touched = false
  callbacks : s.destroying = false → ∀ n slot, s.gone n = true → s.callbacks slot ≠ some (.client n)
  notStale : s.stale = false

/-- Client `n`, or the user for `none`, has the last pointer to the transport. -/
def last (s : RtObjects) : Option Nat → Prop
  | some n => s.held = false ∧ ∀ m ∈ s.clients, m = n
  | none => s.clients = []

/-- The last pointer is not dropped inside `tick`, and a client that drops another one has
had its functions replaced; when `~NWebsocketCppRest` returns no `connect` is on its way,
and no other task fails after that. -/
def lifetimeOk (s : RtObjects) : RtObjectsAction → Prop
  | .destroyClient n =>
    s.last (some n) ∧ s.ws.locked = false ∨
      ¬ s.last (some n) ∧ ∀ slot, s.callbacks slot ≠ some (.client n)
  | .releaseTransport => s.last none → s.ws.locked = false
  | .destructorReturns => s.ws.connecting = [] ∧ s.ws.pool = []
  | .taskDone _ (.error _) => s.destroyed = false
  | _ => True

/-! ## Runs -/

/-- What every step keeps: until `~NWebsocketCppRest` no function refers to a destroyed
client, from then on no pointer is left, and after it nothing can move but tasks. -/
structure Alive (s : RtObjects) : Prop where
  owned : s.ws.Owned
  untouched : s.touched = false
  notStale : s.stale = false
  callbacks : s.destroying = false → ∀ n slot, s.gone n = true → s.callbacks slot ≠ some (.client n)
  ending : s.destroying = true → s.ws.Ending ∧ s.held = false ∧ s.clients = []
  atRest : s.destroyed = true → s.destroying = true ∧ s.ws.code = [] ∧ s.ws.waits = none ∧
    s.ws.connecting = [] ∧ s.ws.pool = []

theorem Alive.init : Alive {} := by
  refine ⟨⟨fun w h => ?_, fun w h => ?_, ?_⟩, rfl, rfl, fun _ n slot _ h => ?_, ?_, ?_⟩
  · cases h
  · cases h
  · rintro ⟨⟩
  · cases h
  · rintro ⟨⟩
  · rintro ⟨⟩

theorem Alive.untouched' {s : RtObjects} (hi : Alive s) : Untouched s :=
  ⟨hi.untouched, hi.callbacks, hi.notStale⟩

/-- Somebody still holds the transport. -/
theorem Alive.notDestroying {s : RtObjects} (hi : Alive s) (h : s.held = true ∨ s.clients ≠ []) :
    s.destroying = false := by
  cases hd : s.destroying with
  | false => rfl
  | true =>
    obtain ⟨-, hheld, hclients⟩ := hi.ending hd
    rcases h with h | h
    · rw [hheld] at h
      cases h
    · exact absurd hclients h

theorem Alive.notDestroyed {s : RtObjects} (hi : Alive s) (hd : s.destroying = false) :
    s.destroyed = false := by
  cases h : s.destroyed with
  | false => rfl
  | true =>
    rw [(hi.atRest h).1] at hd
    cases hd

theorem gone_iff {s : RtObjects} {n : Nat} : s.gone n = true ↔ n < s.made ∧ n ∉ s.clients := by
  simp only [gone, Bool.and_eq_true, decide_eq_true_eq]

/-- The destructor of the transport starts once the last pointer is gone. -/
theorem Alive.destroyTransport {s : RtObjects} (hi : Alive s) (hu : s.ws.userCode = true)
    (hlocked : s.ws.locked = false) (hheld : s.held = false) (hclients : s.clients = [])
    (hd : s.destroyed = false) : Alive s.destroyTransport := by
  refine ⟨hi.owned.disconnect hu, hi.untouched, hi.notStale, ?_, fun _ => ⟨?_, hheld, hclients⟩, ?_⟩
  · rintro ⟨⟩
  · exact WsState.Ending.disconnect hu hlocked
  · intro h
    have h : s.destroyed = true := h
    rw [hd] at h
    cases h

/-- Letting go of a pointer. -/
theorem Alive.release {s : RtObjects} (hi : Alive s) (hu : s.ws.userCode = true)
    (hlocked : s.held = false → s.clients = [] → s.ws.locked = false) (hd : s.destroyed = false) :
    Alive s.release := by
  unfold RtObjects.release
  split
  · exact hi
  · next hlast =>
    simp only [Bool.or_eq_true, Bool.not_eq_true', not_or, Bool.not_eq_true, Bool.not_eq_false,
      List.isEmpty_iff] at hlast
    exact hi.destroyTransport hu (hlocked hlast.1 hlast.2) hlast.1 hlast.2 hd

theorem Alive.newClient {s : RtObjects} (hi : Alive s) (hheld : s.held = true) :
    Alive { s with
      clients := s.clients ++ [s.made]
      made := s.made + 1
      callbacks := fun _ => some (.client s.made) } := by
  have hd := hi.notDestroying (.inl hheld)
  refine ⟨hi.owned, hi.untouched, hi.notStale, fun _ n slot hgone hcb => ?_, fun h => ?_, hi.atRest⟩
  · obtain rfl := Owner.client.inj (Option.some.inj hcb)
    exact (gone_iff.1 hgone).2 (List.mem_append_right _ List.mem_cons_self)
  · have h : s.destroying = true := h
    rw [hd] at h
    cases h

theorem Alive.setCallback {s : RtObjects} (hi : Alive s) (slot : Slot) (set : Bool) :
    Alive { s with
      callbacks := fun slot' =>
        if slot' = slot then if set then some .user else none else s.callbacks slot' } := by
  refine ⟨hi.owned, hi.untouched, hi.notStale, fun hd n slot' hgone hcb => ?_, hi.ending, hi.atRest⟩
  simp only at hcb
  split at hcb
  · split at hcb
    · cases hcb
    · cases hcb
  · exact hi.callbacks hd n slot' hgone hcb

theorem Alive.destroyClient {s : RtObjects} {n : Nat} (hi : Alive s) (hn : n ∈ s.clients)
    (hu : s.ws.userCode = true) (hok : s.lifetimeOk (.destroyClient n)) :
    Alive { s with clients := s.clients.filter fun m => m != n }.release := by
  have hd := hi.notDestroying (.inr (List.ne_nil_of_mem hn))
  have hmem : ∀ m, m ∉ s.clients.filter (fun m => m != n) → m = n ∨ m ∉ s.clients := by
    intro m hm
    by_cases h : m = n
    · exact .inl h
    · exact .inr fun hc => hm (List.mem_filter.2 ⟨hc, by simpa using h⟩)
  have hnil : s.clients.filter (fun m => m != n) = [] → ∀ m ∈ s.clients, m = n := by
    intro h m hm
    have := List.filter_eq_nil_iff.1 h m hm
    simpa using this
  rcases hok with ⟨⟨hheld, hall⟩, hlocked⟩ | ⟨hnot, hcb⟩
  · -- the last pointer: the functions go with the transport
    have hfilter : s.clients.filter (fun m => m != n) = [] :=
      List.filter_eq_nil_iff.2 fun m hm => by simpa using hall m hm
    have hcond : ¬ (s.held || !(s.clients.filter fun m => m != n).isEmpty) = true := by
      rw [hheld, hfilter]
      exact Bool.false_ne_true
    rw [RtObjects.release, if_neg hcond]
    refine ⟨hi.owned.disconnect hu, hi.untouched, hi.notStale, ?_, fun _ => ⟨?_, hheld, hfilter⟩, ?_⟩
    · rintro ⟨⟩
    · unfold RtObjects.destroyTransport
      exact WsState.Ending.disconnect hu hlocked
    · intro h
      have h : s.destroyed = true := h
      rw [hi.notDestroyed hd] at h
      cases h
  · refine Alive.release ?_ hu ?_ (hi.notDestroyed hd)
    · refine ⟨hi.owned, hi.untouched, hi.notStale, fun _ m slot hgone hc => ?_, fun h => ?_, hi.atRest⟩
      · obtain ⟨hmade, hm⟩ := gone_iff.1 hgone
        rcases hmem m hm with rfl | hm
        · exact hcb slot hc
        · exact hi.callbacks hd m slot (gone_iff.2 ⟨hmade, hm⟩) hc
      · have h : s.destroying = true := h
        rw [hd] at h
        cases h
    · intro hheld hclients
      exact absurd ⟨hheld, hnil hclients⟩ hnot

/-- A step of the transport before `~NWebsocketCppRest` has returned. -/
theorem Alive.transport {s : RtObjects} {a : WsAction} {ws : WsState} (hi : Alive s)
    (hd : s.destroyed = false) (hcall : s.destroying = true → a.call = false)
    (h : s.ws.step a = some ws) (tasks : List Task) :
    Alive { s with ws, tasks, stale := s.stale || s.callsGone a } := by
  refine ⟨hi.owned.step h, hi.untouched, ?_, hi.callbacks, fun hg => ?_, fun hover => ?_⟩
  · rw [Bool.or_eq_false_iff]
    refine ⟨hi.notStale, ?_⟩
    unfold callsGone
    split
    · next hstart =>
      split
      · next i event hhead =>
        split
        · next n hslot =>
          cases hgone : s.gone n with
          | false => rfl
          | true =>
            -- a handler runs inside `tick`, and the transport is not destroyed there
            cases hg : s.destroying with
            | true =>
              rw [WsState.step, (hi.ending hg).1.unlocked] at h
              split at h <;> cases h
            | false =>
              obtain ⟨slot, -, hcb⟩ := Option.bind_eq_some_iff.1 hslot
              exact absurd hcb (hi.callbacks hg n slot hgone)
        · rfl
      · rfl
    · rfl
  · obtain ⟨hend, hheld, hclients⟩ := hi.ending hg
    exact ⟨hend.step hi.owned (hcall hg) h, hheld, hclients⟩
  · have hover : s.destroyed = true := hover
    rw [hd] at hover
    cases hover

theorem Alive.step {s s' : RtObjects} {a : RtObjectsAction} (hi : Alive s) (hok : s.lifetimeOk a)
    (h : s.step a = some s') : Alive s' := by
  cases a <;> simp only [RtObjects.step] at h
  case newClient =>
    split at h <;> cases h
    next hc =>
    rw [Bool.and_eq_true] at hc
    exact hi.newClient hc.1
  case setCallback slot set =>
    split at h <;> cases h
    exact hi.setCallback slot set
  case destroyClient n =>
    split at h <;> cases h
    next hc => exact hi.destroyClient hc.1 hc.2 hok
  case releaseTransport =>
    split at h <;> cases h
    next hc =>
    rw [Bool.and_eq_true] at hc
    have hd := hi.notDestroying (.inl hc.1)
    refine Alive.release ?_ hc.2 (fun _ hclients => hok hclients) (hi.notDestroyed hd)
    refine ⟨hi.owned, hi.untouched, hi.notStale, hi.callbacks, fun h => ?_, hi.atRest⟩
    have h : s.destroying = true := h
    rw [hd] at h
    cases h
  case transport a =>
    cases hd : s.destroyed with
    | true =>
      rw [if_pos hd] at h
      split at h
      · next hback =>
        obtain ⟨hg, hcode, hw, hconnecting, hpool⟩ := hi.atRest hd
        rw [(hi.ending hg).1.still hi.owned hcode hw hconnecting hpool hback] at h
        cases h
      · cases h
    | false =>
      rw [if_neg (by rw [hd]; exact Bool.false_ne_true)] at h
      split at h
      · cases h
      · split at h
        · cases h
        · next hcall =>
          obtain ⟨ws, hws, rfl⟩ := Option.map_eq_some_iff.1 h
          refine hi.transport hd (fun hg => ?_) hws _
          rw [hg, Bool.true_and] at hcall
          exact Bool.eq_false_iff.2 hcall
  case taskDone i result =>
    split at h
    · cases h
    · cases h
      exact ⟨hi.owned, hi.untouched, hi.notStale, hi.callbacks, hi.ending, hi.atRest⟩
    · next task what ht =>
      have hd : s.destroyed = false := hok
      rw [if_neg (by rw [hd]; exact Bool.false_ne_true)] at h
      obtain ⟨ws, hws, rfl⟩ := Option.map_eq_some_iff.1 h
      have hn := hi.transport hd (fun _ => rfl) hws (s.tasks.eraseIdx i)
      have hstale : (s.stale || s.callsGone (.taskFails (task.description what))) = s.stale :=
        Bool.or_false s.stale
      rw [hstale] at hn
      exact hn
  case destructorReturns =>
    split at h <;> cases h
    next hc =>
    simp only [Bool.and_eq_true, Bool.not_eq_true', List.isEmpty_iff, Option.isNone_iff_eq_none] at hc
    refine ⟨hi.owned, hi.untouched, hi.notStale, hi.callbacks, hi.ending, fun _ => ?_⟩
    exact ⟨hc.1.1.1.1, hc.1.1.2, hc.1.2, hok.1, hok.2⟩

/-- **Lifetime.**  In every run in which no continuation outlives the transport and no function
of a client outlives the client, nothing touches either after its end. -/
theorem untouched {s : RtObjects} (h : Reach step lifetimeOk {} s) : Untouched s :=
  (h.invariant Alive.init fun _ _ _ hi hok hs => hi.step hok hs).untouched'

instance (s : RtObjects) : ∀ owner, Decidable (s.last owner)
  | some n => inferInstanceAs (Decidable (s.held = false ∧ ∀ m ∈ s.clients, m = n))
  | none => inferInstanceAs (Decidable (s.clients = []))

instance (p : Slot → Prop) [DecidablePred p] : Decidable (∀ slot, p slot) :=
  decidable_of_iff (p .connect ∧ p .error ∧ p .disconnect ∧ p .message)
    ⟨fun ⟨h₁, h₂, h₃, h₄⟩ slot => Slot.casesOn slot h₁ h₂ h₃ h₄, fun h => ⟨h _, h _, h _, h _⟩⟩

instance (s : RtObjects) : ∀ a, Decidable (s.lifetimeOk a)
  | .destroyClient n =>
    inferInstanceAs (Decidable
      (s.last (some n) ∧ s.ws.locked = false ∨
        ¬ s.last (some n) ∧ ∀ slot, s.callbacks slot ≠ some (.client n)))
  | .releaseTransport => inferInstanceAs (Decidable (s.last none → s.ws.locked = false))
  | .destructorReturns => inferInstanceAs (Decidable (s.ws.connecting = [] ∧ s.ws.pool = []))
  | .taskDone _ (.error _) => inferInstanceAs (Decidable (s.destroyed = false))
  | .taskDone _ (.ok _) => isTrue trivial
  | .newClient => isTrue trivial
  | .setCallback .. => isTrue trivial
  | .transport _ => isTrue trivial

/-- A client connects and goes, and its transport with it, after the connection opened. -/
def orderlyRun : List RtObjectsAction :=
  [.newClient, .transport (.connect .binary .started), .transport .run, .transport .run,
    .transport (.connectDone 0 (.ok ()) 1), .transport (.poolQueues 0), .releaseTransport,
    .destroyClient 0, .transport .run, .transport (.serviceClose 0 1000 ""),
    .transport (.serviceQueues 0), .transport .joined, .destructorReturns, .taskDone 0 (.ok ())]

theorem untouched_orderlyRun :
    ∃ s, exec step lifetimeOk {} orderlyRun = some s ∧ Untouched s := by
  have h : (exec step lifetimeOk {} orderlyRun).isSome = true := by decide
  exact ⟨_, (Option.some_get h).symm, untouched (Reach.get_exec orderlyRun h)⟩

/-- The transport goes while its `connect` task is on its way. -/
def lateConnectRun : List RtObjectsAction :=
  [.newClient, .transport (.connect .binary .started), .transport .run, .transport .run,
    .releaseTransport, .destroyClient 0, .transport .run, .transport (.serviceClose 0 1000 ""),
    .transport (.serviceQueues 0), .transport .joined, .destructorReturns,
    .transport (.connectDone 0 (.ok ()) 1)]

/-- The user keeps the transport of a client that is gone, and connects and ticks it. -/
def orphanedRun : List RtObjectsAction :=
  [.newClient, .destroyClient 0, .transport (.connect .binary .started), .transport .run,
    .transport .run, .transport (.connectDone 0 (.ok ()) 1), .transport (.poolQueues 0),
    .transport (.tickBegin 2), .transport .run, .transport .startEvent]

/-- The continuation of `connect` uses a transport that is gone, and the transport a client. -/
theorem not_untouched :
    (∃ s, Reach step anyStep {} s ∧ s.destroyed = true ∧ s.touched = true) ∧
    ∃ s, Reach step anyStep {} s ∧ s.gone 0 = true ∧ s.held = true ∧ s.stale = true ∧
      ¬ Untouched s := by
  have hlate : (exec step anyStep {} lateConnectRun).isSome = true := by decide
  have horphaned : (exec step anyStep {} orphanedRun).isSome = true := by decide
  refine ⟨⟨_, Reach.get_exec lateConnectRun hlate, rfl, rfl⟩, _,
    Reach.get_exec orphanedRun horphaned, rfl, rfl, rfl, fun hs => ?_⟩
  cases hs.notStale

end RtObjects

end NakamaCpp.Realtime
