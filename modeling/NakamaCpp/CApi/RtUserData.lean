import NakamaCpp.CApi.ReqTables
import NakamaCpp.CApi.RtListener

/-!
# The user data of `NRtClientWrapper`

The constructor of `NRtClientWrapper` keeps the wrapper in the user data of the wrapped client, and
every static handler of an event or a response gets the wrapper from there.  `setUserData` of the
wrapper overwrites it; that of `NClientWrapper` has a field of its own.

    when an event or a response arrives, the user data is still the wrapper
      →  what is delivered after a `setUserData` is what is delivered without it
                                                                      (user_data_routing)
-/

namespace NakamaCpp.CApi

open Realtime CInterop Lockstep

/-! ## Responses -/

/-- How the wrapped client answers a request. -/
inductive RtResult
  | empty
  | channel (channel : NChannel)
  | channelMessageAck (ack : NChannelMessageAck)
  | match_ (game : NMatch)
  | matchmakerTicket (ticket : NMatchmakerTicket)
  | status (status : NStatus)
  | rpc (rpc : NRpc)
  | error (error : NRtError)

namespace RtResult

/-- The map that the static handler of the answer looks in. -/
def map : RtResult → Option RtMap
  | .empty => some .empty
  | .channel _ => some .channel
  | .channelMessageAck _ => some .channelMessageAck
  | .match_ _ => some .match_
  | .matchmakerTicket _ => some .matchmakerTicket
  | .status _ => some .status
  | .rpc _ => some .rpc
  | .error _ => none

/-- What the handler makes of the C structure that it gets. -/
def crossed : RtResult → Option RtResult
  | .empty => some .empty
  | .channel c => some (.channel (.assign (.assign c)))
  | .channelMessageAck ack => some (.channelMessageAck (.assign (.assign ack)))
  | .match_ game => some (.match_ (.assign (.assign game)))
  | .matchmakerTicket ticket => some (.matchmakerTicket (.assign (.assign ticket)))
  | .status st => some (.status (.assign (.assign st)))
  | .rpc call => some (.rpc (.assign (.assign call)))
  | .error e => (assignNRtError (.assign e)).map .error

end RtResult

/-! ## Wrappers -/

/-- A `void*`. -/
abbrev Pointer := UInt64

variable {L : Type}

/-- A wrapper with its wrapped client, but for the user data. -/
structure RtWrapper (L : Type) where
  listener : Option L := none
  /-- `setListener` has set the callbacks of the client's default listener -/
  callbacksSet : Bool := false
  tables : ReqTables RtMap := {}
  requests : Nat := 0
  /-- the requests that the wrapped client has not answered -/
  outstanding : List (WrapperRequest RtMap) := []

/-- A request callback that is running: the wrapper that has called it, and the entry that goes
when it returns. -/
structure RunningCallback where
  wrapper : Pointer
  table : Option RtMap
  reqData : UInt64

/-- The wrappers by their addresses, and the callbacks that are running, innermost first. -/
structure RtWrappers (L : Type) where
  wrappers : Pointer → Option (RtWrapper L) := fun _ => none
  running : List RunningCallback := []

inductive RtInput (L : Type)
  | construct (a : Pointer)
  | setListener (a : Pointer) (listener : Option L)
  | setUserData (a p : Pointer)
  | getUserData (a : Pointer)
  | request (a : Pointer) (op : RtOp) (successCallback errorCallback : Bool)
  /-- the wrapped client calls its default listener -/
  | event (a : Pointer) (e : ListenerEvent)
  /-- the wrapped client answers a request -/
  | complete (a : Pointer) (number : Nat) (result : RtResult)
  /-- the innermost request callback ends -/
  | returns
  | throws

inductive RtOutput (L : Type)
  /-- there is no such wrapper or request -/
  | refused
  | done
  | userData (p : Pointer)
  /-- calls of listeners -/
  | heard (calls : Notified L)
  /-- the callback of a request of a wrapper is called -/
  | called (wrapper : Pointer) (request : Nat) (result : Option RtResult)
  /-- a handler has taken something else for a wrapper -/
  | stuck

namespace RtWrappers

def set (s : RtWrappers L) (a : Pointer) (w : RtWrapper L) : RtWrappers L :=
  { s with wrappers := Function.update s.wrappers a (some w) }

theorem set_wrappers (s : RtWrappers L) (a b : Pointer) (w : RtWrapper L) :
    (s.set a w).wrappers b = if b = a then some w else s.wrappers b :=
  Function.update_apply ..

/-- The callbacks of the wrapped client's default listener. -/
def defaultListener (w : RtWrapper L) : NRtDefaultClientListener L :=
  if w.callbacksSet then registered else {}

/-- The request that the wrapped client answers: with a success of its type or an error. -/
def answered (s : RtWrappers L) (a : Pointer) (number : Nat) (result : RtResult) :
    Option (RtWrapper L × WrapperRequest RtMap) := do
  let w ← s.wrappers a
  let r ← w.outstanding.find? fun r => r.number == number
  if result.map = none ∨ result.map = some r.kind then some (w, r) else none

theorem answered_wrapper {s : RtWrappers L} {a : Pointer} {number : Nat} {result : RtResult}
    {w : RtWrapper L} {r : WrapperRequest RtMap} (h : s.answered a number result = some (w, r)) :
    s.wrappers a = some w := by
  obtain ⟨w', hw, h⟩ := Option.bind_eq_some_iff.1 h
  obtain ⟨r', -, h⟩ := Option.bind_eq_some_iff.1 h
  split at h <;> cases h
  exact hw

/-- A handler of the wrapper that `getWrapper` has given it. -/
def handle (s : RtWrappers L) (wrapper : Pointer) (reqData : UInt64) (result : RtResult) :
    RtWrappers L × RtOutput L :=
  match s.wrappers wrapper with
  | none => (s, .stuck)
  | some w =>
    if reqData = 0 then (s, .done)
    else
      match (w.tables.table result.map)[reqData]? with
      | none => (s, .done)
      | some request =>
        ({ s with running := ⟨wrapper, result.map, reqData⟩ :: s.running },
          .called wrapper request result.crossed)

/-- The wrapper without its entry. -/
def erase (s : RtWrappers L) (c : RunningCallback) : RtWrappers L :=
  match s.wrappers c.wrapper with
  | none => s
  | some w => s.set c.wrapper { w with tables := w.tables.erase c.table c.reqData }

/-- One input, where `getWrapper` gives what the static handlers get for a client; the user data
is elsewhere. -/
def step (getWrapper : Pointer → Pointer) (s : RtWrappers L) :
    RtInput L → RtWrappers L × RtOutput L
  | .construct a =>
    if a = 0 then (s, .refused)
    else
      match s.wrappers a with
      | none => (s.set a {}, .done)
      | some _ => (s, .refused)
  | .setListener a listener =>
    match s.wrappers a with
    | none => (s, .refused)
    | some w => (s.set a { w with listener, callbacksSet := true }, .done)
  | .setUserData a _ | .getUserData a =>
    match s.wrappers a with
    | none => (s, .refused)
    | some _ => (s, .done)
  | .request a op successCallback errorCallback =>
    match s.wrappers a with
    | none => (s, .refused)
    | some w =>
      match op.successMap with
      | none => (s, .done)
      | some kind =>
        let (tables, id) := w.tables.register kind w.requests successCallback errorCallback
        (s.set a { w with
          tables
          requests := w.requests + 1
          outstanding := w.outstanding ++
            [⟨w.requests, id, kind, successCallback, errorCallback⟩] }, .done)
  | .event a e =>
    match s.wrappers a with
    | none => (s, .refused)
    | some w =>
      let userData : UserData L :=
        (s.wrappers (getWrapper a)).map fun w => { listener := w.listener }
      match (defaultListener w).call e userData with
      | some calls => (s, .heard calls)
      | none => (s, .stuck)
  | .complete a number result =>
    match s.answered a number result with
    | none => (s, .refused)
    | some (w, r) =>
      (s.set a { w with outstanding := w.outstanding.filter fun r' => r'.number != number }).handle
        (getWrapper a) r.id result
  | .returns =>
    match s.running with
    | [] => (s, .refused)
    | c :: running => ({ s with running }.erase c, .done)
  | .throws =>
    match s.running with
    | [] => (s, .refused)
    | _ :: running => ({ s with running }, .done)

/-- The client of which an input makes a static handler run. -/
def handling (s : RtWrappers L) : RtInput L → Option Pointer
  | .event a _ => (s.wrappers a).bind fun w => if w.callbacksSet then some a else none
  | .complete a number result => (s.answered a number result).map fun _ => a
  | _ => none

end RtWrappers

/-! ## User data -/

/-- The wrappers, and the user data of each one's client. -/
structure RtWorld (L : Type) where
  known : RtWrappers L := {}
  userData : Pointer → Pointer := fun _ => 0

namespace RtWorld

/-- The constructor and `setUserData` set the user data. -/
def nextUserData (s : RtWorld L) (i : RtInput L) : RtOutput L → Pointer → Pointer
  | .done =>
    match i with
    | .construct a => Function.update s.userData a a
    | .setUserData a p => Function.update s.userData a p
    | _ => s.userData
  | _ => s.userData

/-- `getUserData` returns it. -/
def output (s : RtWorld L) : RtInput L → RtOutput L → RtOutput L
  | .getUserData a, .done => .userData (s.userData a)
  | _, out => out

def step (s : RtWorld L) (i : RtInput L) : RtWorld L × RtOutput L :=
  let next := s.known.step s.userData i
  ({ known := next.1, userData := s.nextUserData i next.2 }, s.output i next.2)

/-- When a static handler runs, the user data of its client is the client's own wrapper. -/
def Home (s : RtWorld L) (i : RtInput L) : Prop :=
  ∀ a, s.known.handling i = some a → s.userData a = a

end RtWorld

/-- What a listener or a request callback gets of an output, or that there is none. -/
def RtOutput.delivery : RtOutput L → RtOutput L
  | .userData _ => .done
  | out => out

namespace RtWrappers

/-! ## Routing without the user data -/

theorem call_unset (e : ListenerEvent) (userData : UserData L) :
    ({} : NRtDefaultClientListener L).call e userData = some [] := by
  cases e <;> rfl

/-- Where the user data is right, the handlers do what they would do with the client's own
wrapper. -/
theorem step_home {getWrapper : Pointer → Pointer} {s : RtWrappers L} {i : RtInput L}
    (h : ∀ a, s.handling i = some a → getWrapper a = a) : s.step getWrapper i = s.step id i := by
  cases i with
  | event a e =>
    simp only [step]
    cases hw : s.wrappers a with
    | none => rfl
    | some w =>
      simp only
      by_cases hset : w.callbacksSet = true
      · have hhome : getWrapper a = a := by
          refine h a ?_
          simp [handling, hw, hset]
        rw [hhome]
        rfl
      · have hunset : defaultListener w = {} := if_neg hset
        rw [hunset, call_unset, call_unset]
  | complete a number result =>
    simp only [step]
    cases hw : s.answered a number result with
    | none => rfl
    | some p =>
      have hhome : getWrapper a = a := by
        refine h a ?_
        simp [handling, hw]
      simp only [hhome, id]
  | _ => rfl

/-- No input but `getUserData` of the user data's own machine gives a pointer. -/
theorem delivery_step (getWrapper : Pointer → Pointer) (s : RtWrappers L) (i : RtInput L) :
    (s.step getWrapper i).2.delivery = (s.step getWrapper i).2 := by
  cases i <;> simp only [step, handle] <;> repeat' split
  all_goals rfl

theorem step_setUserData (getWrapper : Pointer → Pointer) (s : RtWrappers L) (a p : Pointer) :
    (s.step getWrapper (.setUserData a p)).1 = s := by
  simp only [step]
  split <;> rfl

end RtWrappers

namespace RtWorld

theorem delivery_output (s : RtWorld L) (i : RtInput L) {out : RtOutput L}
    (h : out.delivery = out) : (s.output i out).delivery = out := by
  unfold output
  split
  · rfl
  · exact h

/-- As long as the user data is right, the machine goes along with the one that does without. -/
theorem home_simulates (s : RtWorld L) (t : RtWrappers L) (i : RtInput L) (h : s.known = t)
    (hok : s.Home i) :
    (step s i).1.known = (t.step id i).1 ∧ (t.step id i).2 = (step s i).2.delivery := by
  have hhome : s.known.step s.userData i = t.step id i := by
    rw [← h]
    exact RtWrappers.step_home hok
  refine ⟨congrArg Prod.fst hhome, ?_⟩
  show (t.step id i).2 = (s.output i (s.known.step s.userData i).2).delivery
  rw [hhome, delivery_output s i (RtWrappers.delivery_step id t i)]

/-- What is delivered, input by input. -/
def deliveries (s : RtWorld L) (is : List (RtInput L)) : List (RtOutput L) :=
  (outputs step s is).map RtOutput.delivery

theorem deliveries_home {s : RtWorld L} {is : List (RtInput L)} (hok : Guarded step Home s is) :
    s.deliveries is = outputs (RtWrappers.step id) s.known is :=
  (outputs_of_guarded (R := fun s t => s.known = t) home_simulates hok rfl).symm

/-! ## What `getUserData` returns -/

/-- The user data of a wrapper, if there is such a wrapper. -/
def current (s : RtWorld L) (a : Pointer) : Option Pointer :=
  bif (s.known.wrappers a).isSome then some (s.userData a) else none

/-- What an input makes of the pointer that was set last. -/
def setBy (a : Pointer) : Option Pointer → RtInput L → Option Pointer
  | none, .construct b => if b = a ∧ b ≠ 0 then some b else none
  | some q, .setUserData b p => if b = a then some p else some q
  | q, _ => q

/-- The pointer that was set last, with the one of the constructor. -/
def lastSet (a : Pointer) (is : List (RtInput L)) : Option Pointer := is.foldl (setBy a) none

/-- Only the constructor makes a wrapper, and none goes. -/
theorem isSome_step {getWrapper : Pointer → Pointer} {s : RtWrappers L} {i : RtInput L}
    (h : ∀ b, i ≠ .construct b) (a : Pointer) :
    ((s.step getWrapper i).1.wrappers a).isSome = (s.wrappers a).isSome := by
  have hset : ∀ {b w w'}, s.wrappers b = some w →
      ((s.set b w').wrappers a).isSome = (s.wrappers a).isSome := by
    intro b w w' hb
    rw [RtWrappers.set_wrappers]
    split
    · next hab =>
      rw [hab, hb]
      rfl
    · rfl
  cases i with
  | construct b => exact absurd rfl (h b)
  | setListener b listener =>
    simp only [RtWrappers.step]
    split
    · rfl
    · next hb => exact hset hb
  | setUserData b p => rw [RtWrappers.step_setUserData]
  | getUserData b =>
    simp only [RtWrappers.step]
    split <;> rfl
  | request b op successCallback errorCallback =>
    simp only [RtWrappers.step]
    split
    · rfl
    · next hb =>
      split
      · rfl
      · exact hset hb
  | event b e =>
    simp only [RtWrappers.step]
    split
    · rfl
    · split <;> rfl
  | complete b number result =>
    simp only [RtWrappers.step]
    split
    · rfl
    · next hanswered =>
      unfold RtWrappers.handle
      repeat' split
      all_goals exact hset (RtWrappers.answered_wrapper hanswered)
  | returns =>
    simp only [RtWrappers.step]
    split
    · rfl
    · unfold RtWrappers.erase
      split
      · rfl
      · next hb => exact hset hb
  | throws =>
    simp only [RtWrappers.step]
    split <;> rfl

/-- An input that is refused changes nothing. -/
theorem step_refused {s : RtWorld L} {i : RtInput L}
    (h : s.known.step s.userData i = (s.known, .refused)) : (step s i).1 = s := by
  show RtWorld.mk (s.known.step s.userData i).1
    (s.nextUserData i (s.known.step s.userData i).2) = s
  rw [h]
  rfl

theorem current_construct {s : RtWorld L} {b : Pointer} (hb : b ≠ 0)
    (hw : s.known.wrappers b = none) (a : Pointer) :
    (step s (.construct b)).1.current a = if a = b then some b else s.current a := by
  have hdone : s.known.step s.userData (.construct b) = (s.known.set b {}, .done) := by
    simp [RtWrappers.step, hb, hw]
  simp only [step, current, nextUserData, hdone, RtWrappers.set_wrappers, Function.update_apply]
  split <;> rfl

theorem current_setUserData {s : RtWorld L} {b : Pointer} {w : RtWrapper L}
    (hw : s.known.wrappers b = some w) (p a : Pointer) :
    (step s (.setUserData b p)).1.current a = if a = b then some p else s.current a := by
  have hdone : s.known.step s.userData (.setUserData b p) = (s.known, .done) := by
    simp [RtWrappers.step, hw]
  simp only [step, current, nextUserData, hdone, Function.update_apply]
  by_cases hab : a = b
  · rw [if_pos hab, if_pos hab, hab, hw]
    rfl
  · rw [if_neg hab, if_neg hab]

/-- The other inputs leave the user data alone. -/
theorem current_other {s : RtWorld L} {i : RtInput L} (hconstruct : ∀ b, i ≠ .construct b)
    (hset : ∀ b p, i ≠ .setUserData b p) (a : Pointer) :
    (step s i).1.current a = s.current a := by
  have hkept : s.nextUserData i (s.known.step s.userData i).2 = s.userData := by
    unfold nextUserData
    split
    · split
      · next b _ => exact absurd rfl (hconstruct b)
      · next b p _ => exact absurd rfl (hset b p)
      · rfl
    · rfl
  simp only [step, current, hkept, isSome_step hconstruct]

theorem current_eq_none {s : RtWorld L} {a : Pointer} :
    s.current a = none ↔ s.known.wrappers a = none := by
  unfold current
  cases s.known.wrappers a <;> simp

theorem current_step (s : RtWorld L) (i : RtInput L) (a : Pointer) :
    (step s i).1.current a = setBy a (s.current a) i := by
  cases i with
  | construct b =>
    by_cases hnew : b ≠ 0 ∧ s.known.wrappers b = none
    · rw [current_construct hnew.1 hnew.2]
      by_cases hab : a = b
      · rw [if_pos hab, hab, current_eq_none.2 hnew.2]
        exact (if_pos ⟨rfl, hnew.1⟩).symm
      · rw [if_neg hab]
        cases s.current a with
        | none => exact (if_neg fun h => hab h.1.symm).symm
        | some q => rfl
    · have hrefused : s.known.step s.userData (.construct b) = (s.known, .refused) := by
        cases hw : s.known.wrappers b <;> simp_all [RtWrappers.step]
      rw [step_refused hrefused]
      cases ha : s.current a with
      | none =>
        refine (if_neg fun h => hnew ⟨h.2, ?_⟩).symm
        rw [h.1]
        exact current_eq_none.1 ha
      | some q => rfl
  | setUserData b p =>
    cases hw : s.known.wrappers b with
    | some w =>
      rw [current_setUserData hw]
      by_cases hab : a = b
      · rw [if_pos hab, hab]
        cases hb : s.current b with
        | none => cases hw.symm.trans (current_eq_none.1 hb)
        | some q => exact (if_pos rfl).symm
      · rw [if_neg hab]
        cases s.current a with
        | none => rfl
        | some q => exact (if_neg fun h => hab h.symm).symm
    | none =>
      have hrefused : s.known.step s.userData (.setUserData b p) = (s.known, .refused) := by
        simp [RtWrappers.step, hw]
      rw [step_refused hrefused]
      cases ha : s.current a with
      | none => rfl
      | some q =>
        refine (if_neg fun h => ?_).symm
        rw [← h, current_eq_none.2 hw] at ha
        cases ha
  | _ =>
    rw [current_other (fun b h => by cases h) fun b p h => by cases h]
    cases s.current a <;> rfl

/-- `getUserData` returns the pointer that was set last. -/
theorem current_final (a : Pointer) (is : List (RtInput L)) (s : RtWorld L) :
    (final step s is).current a = is.foldl (setBy a) (s.current a) := by
  induction is generalizing s with
  | nil => rfl
  | cons i is ih =>
    rw [List.foldl_cons, ← current_step]
    exact ih _

theorem step_getUserData (s : RtWorld L) (a : Pointer) :
    (step s (.getUserData a)).2 =
      match s.current a with
      | some p => .userData p
      | none => .refused := by
  cases hw : s.known.wrappers a <;> simp [step, RtWrappers.step, current, output, hw]

/-! ## Every run -/

/-- **User data and routing.**  Where events and responses meet a client whose user data is still
its wrapper, what is delivered after a call of `setUserData` is what is delivered without it.
`getUserData` returns the pointer that was set last, in every run. -/
theorem user_data_routing (before after : List (RtInput L)) (a p : Pointer) :
    (Guarded step Home {} (before ++ .setUserData a p :: after) →
      Guarded step Home {} (before ++ after) →
      deliveries (step (final step {} before) (.setUserData a p)).1 after =
        deliveries (final step {} before) after) ∧
    ∀ (is : List (RtInput L)) (b : Pointer), (step (final step {} is) (.getUserData b)).2 =
      match lastSet b is with
      | some q => .userData q
      | none => .refused := by
  constructor
  · intro hwith hwithout
    obtain ⟨-, -, hafter⟩ := hwith.of_append
    obtain ⟨-, hafter'⟩ := hwithout.of_append
    have hknown : (step (final step {} before) (.setUserData a p)).1.known =
        (final step ({} : RtWorld L) before).known :=
      RtWrappers.step_setUserData ..
    rw [deliveries_home hafter, deliveries_home hafter', hknown]
  · intro is b
    rw [step_getUserData, current_final]
    rfl

theorem home_of_none {s : RtWorld L} {i : RtInput L} (h : s.known.handling i = none) :
    Home s i := by
  intro a ha
  rw [h] at ha
  cases ha

theorem home_of_eq {s : RtWorld L} {i : RtInput L} {a : Pointer}
    (h : s.known.handling i = some a) (hdata : s.userData a = a) : Home s i := by
  intro b hb
  rw [h] at hb
  cases hb
  exact hdata

/-- Two wrappers with their listeners, and a request of the first. -/
def twoWrappers : List (RtInput Nat) :=
  [.construct 1, .construct 2, .setListener 1 (some 7), .setListener 2 (some 8),
    .request 1 (.leaveChat "chat") true true]

def arrivals : List (RtInput Nat) := [.event 1 .onConnect, .complete 1 0 .empty]

/-- The user data is set, and set back before anything arrives. -/
theorem user_data_routing_setBack :
    deliveries (step (final step {} twoWrappers) (.setUserData 1 5)).1
        (.getUserData 1 :: .setUserData 1 1 :: arrivals) =
      deliveries (final step {} twoWrappers) (.getUserData 1 :: .setUserData 1 1 :: arrivals) ∧
    (step (final step {} (twoWrappers ++ [.setUserData 1 5])) (.getUserData 1)).2 = .userData 5 := by
  have hwith : Guarded step Home {} (twoWrappers ++ .setUserData 1 5 ::
      .getUserData 1 :: .setUserData 1 1 :: arrivals) :=
    ⟨home_of_none rfl, home_of_none rfl, home_of_none rfl, home_of_none rfl, home_of_none rfl,
      home_of_none rfl, home_of_none rfl, home_of_none rfl, home_of_eq rfl rfl, home_of_eq rfl rfl,
      trivial⟩
  have hwithout : Guarded step Home {} (twoWrappers ++
      .getUserData 1 :: .setUserData 1 1 :: arrivals) :=
    ⟨home_of_none rfl, home_of_none rfl, home_of_none rfl, home_of_none rfl, home_of_none rfl,
      home_of_none rfl, home_of_none rfl, home_of_eq rfl rfl, home_of_eq rfl rfl, trivial⟩
  exact ⟨(user_data_routing twoWrappers (.getUserData 1 :: .setUserData 1 1 :: arrivals) 1 5).1
      hwith hwithout,
    (user_data_routing [] [] 0 0).2 (twoWrappers ++ [.setUserData 1 5]) 1⟩

/-- With the address of the other wrapper, its listener is called and the request gets no answer;
with null, the handlers read through null. -/
theorem not_user_data_routing :
    deliveries (final step {} twoWrappers) arrivals =
      [.heard [(7, .onConnect)], .called 1 0 (some .empty)] ∧
    deliveries (step (final step {} twoWrappers) (.setUserData 1 2)).1 arrivals =
      [.heard [(8, .onConnect)], .done] ∧
    deliveries (step (final step {} twoWrappers) (.setUserData 1 0)).1 arrivals =
      [.stuck, .stuck] ∧
    deliveries (step (final step {} twoWrappers) (.setUserData 1 2)).1 arrivals ≠
      deliveries (final step {} twoWrappers) arrivals := by
  have hhome : deliveries (final step {} twoWrappers) arrivals =
      [.heard [(7, .onConnect)], .called 1 0 (some .empty)] := rfl
  have hother : deliveries (step (final step {} twoWrappers) (.setUserData 1 2)).1 arrivals =
      [.heard [(8, .onConnect)], .done] := rfl
  refine ⟨hhome, hother, rfl, ?_⟩
  rw [hhome, hother]
  intro h
  cases (List.cons.inj (List.cons.inj h).2).1

end RtWorld

end NakamaCpp.CApi
