import NakamaCpp.Lib.Transition
import NakamaCpp.Realtime.RtClient

/-!
# Runs of the realtime client

`NRtClient` with its transport and its server: the user issues requests, also
from inside callbacks, the server answers transmitted requests in any order, and
connections open and end.  A step is everything the code does up to the next
call into user code; the call is pushed on `stack` and what the code does after
it (erase the entry, disconnect) happens when it returns.

    Reach step idsBounded {} s  →  Correlated s
-/

namespace NakamaCpp.Realtime

open CppStd Std Transition

/-! ## State -/

/-- A call into user code in progress: the entry that is erased when it returns,
and whether `_transport->disconnect()` follows. -/
structure Frame where
  erase : Option Int32 := none
  disconnects : Bool := false
deriving DecidableEq, Repr

/-- A request as its caller issued it: the number of the connection it was
issued on, if any, its callbacks, and whether a listener has been set ever since. -/
structure Request where
  conn : Option Nat
  successCallback : Bool
  errorCallback : Bool
  listenerKept : Bool
deriving DecidableEq, Repr

/-- The caller asked to be told the fate of the request, by an error callback or by the listener. -/
def Request.listening (r : Request) : Bool := r.errorCallback || r.listenerKept

structure RtState (π : Type) where
  client : NRtClient := {}
  /-- `_transport->isConnected()` -/
  connected : Bool := false
  stack : List Frame := []
  /-- connections opened so far; the last one is the current one -/
  conn : Nat := 0
  /-- requests issued so far, a request is named by its position -/
  requests : List Request := []
  /-- transmitted requests the server has not answered, with their cids -/
  inFlight : List (Nat × String) := []
  /-- calls into user code, oldest first, with the request that caused them -/
  deliveries : List (Option Nat × UserCall π) := []
  /-- ids issued since `_nextCid` was last 0 -/
  issued : Nat := 0
  /-- connections whose end has been reported -/
  ended : List Nat := []
  /-- calls of `_transport->disconnect()` -/
  disconnects : Nat := 0

inductive RtAction (π : Type)
  | setListener (set : Bool)
  /-- any operation that goes through `createReqContext` -/
  | request (successCallback errorCallback serializes sends : Bool)
  | sendMatchData (serializes sends : Bool)
  | disconnect
  /-- the transport stops being connected before it reports the end -/
  | dropped
  /-- the transport reports a new connection, the end of one, or an error -/
  | opened
  | ended (conn : Nat)
  | transportError (description : String)
  /-- the server answers a transmitted request -/
  | answer (request : Nat) (msg : Envelope π)
  /-- any frame that does not name a pending request -/
  | push (parsed : Option (Envelope π))
  | callbackReturns
  | callbackThrows

namespace RtState

variable {π : Type}

/-! ## Steps -/

/-- What follows a call into user code. -/
def finish (s : RtState π) (f : Frame) : RtState π :=
  { s with
    client := s.client.eraseReq f.erase
    disconnects := s.disconnects + f.disconnects.toNat }

/-- Make the calls of a dispatch, or go on at once when there is none. -/
def enter (s : RtState π) (origin : Option Nat) (d : Dispatch π) (disconnects : Bool) : RtState π :=
  if d.calls.isEmpty then s.finish ⟨d.erase, disconnects⟩
  else
    { s with
      deliveries := s.deliveries ++ d.calls.map fun call => (origin, call)
      stack := ⟨d.erase, disconnects⟩ :: s.stack }

/-- Ids issued since the last reset, when the next one is taken. -/
def issuedNext (s : RtState π) : Nat := (if s.client.resets then 0 else s.issued) + 1

/-- `createReqContext` for the request with the given callbacks. -/
def issue (s : RtState π) (successCallback errorCallback : Bool) : RtState π :=
  { s with
    client :=
      (s.client.createReqContext ⟨s.requests.length, successCallback, errorCallback⟩).1
    requests := s.requests ++
      [{ conn := if s.connected then some s.conn else none
         successCallback, errorCallback
         listenerKept := s.client.listener }]
    issued := s.issuedNext }

/-- The end of `send`: the message is on its way, or has failed, or `std::stoi` threw. -/
def afterSend (s : RtState π) (request : Option Nat) (cid : String) :
    Except StdError (Option NRtClient.SendFailure) → RtState π
  | .ok none => { s with inFlight := s.inFlight ++ (request.map fun q => (q, cid)).toList }
  | .ok (some f) => s.enter request (s.client.reqInternalError f.cid f.error) f.disconnects
  | .error _ => s

/-- `onTransportMessage` up to the call into user code. -/
def receive (s : RtState π) (origin : Option Nat) (parsed : Option (Envelope π)) : RtState π :=
  match s.client.dispatchMessage s.connected parsed with
  | .ok d => s.enter origin d false
  | .error _ => s

/-- The frame names no pending request. -/
def unsolicited (s : RtState π) : Option (Envelope π) → Bool
  | none => true
  | some msg => msg.cid == "" ||
    match stoi msg.cid with
    | .ok cid => s.client.reqContexts[cid]?.isNone
    | .error _ => true

def step (s : RtState π) : RtAction π → Option (RtState π)
  | .setListener set => some
    { s with
      client := { s.client with listener := set }
      requests := if set then s.requests
        else s.requests.map fun q => { q with listenerKept := false } }
  | .request sc ec serializes sends =>
    let cid := toString (s.client.createReqContext ⟨s.requests.length, sc, ec⟩).2
    some ((s.issue sc ec).afterSend (some s.requests.length) cid
      (NRtClient.send s.connected serializes sends cid))
  | .sendMatchData serializes sends =>
    some (s.afterSend none "" (NRtClient.send s.connected serializes sends ""))
  | .disconnect => some { s with disconnects := s.disconnects + 1 }
  | .dropped => some { s with connected := false }
  | .opened => some
    ({ s with connected := true, conn := s.conn + 1 }.enter none
      { calls := if s.client.listener then [.listener .onConnect] else [] } false)
  | .ended c =>
    if 0 < c ∧ c ≤ s.conn then some
      ({ s with connected := false, ended := c :: s.ended }.enter none
        { calls := if s.client.listener then [.listener .onDisconnect] else [] } false)
    else none
  | .transportError description =>
    some (s.enter none (s.client.onTransportError s.connected description) false)
  | .answer q msg =>
    match s.inFlight.find? (fun p => p.1 == q) with
    | some (_, cid) => some
      ({ s with inFlight := s.inFlight.filter fun p => p.1 != q }.receive (some q)
        (some { msg with cid }))
    | none => none
  | .push parsed => if s.unsolicited parsed then some (s.receive none parsed) else none
  | .callbackReturns =>
    match s.stack with
    | f :: stack => some ({ s with stack }.finish f)
    | [] => none
  | .callbackThrows =>
    match s.stack with
    | _ :: stack => some { s with stack }
    | [] => none

/-- Fewer than 2^31 ids are issued between two resets of the counter. -/
def idsBounded (s : RtState π) : RtAction π → Bool
  | .request .. => decide (s.issuedNext < 2 ^ 31)
  | _ => true

/-! ## Invariant -/

/-- The request a call is addressed to, when it is one of its two callbacks. -/
def callee : UserCall π → Option Nat
  | .success q _ => some q
  | .error q _ => some q
  | .listener _ => none

/-- A call that tells the fate of request `q`: one of its callbacks, or `onError`. -/
def Notifies (q : Nat) (call : UserCall π) : Prop :=
  callee call = some q ∨ ∃ e, call = .listener (.onError e)

/-- Entry `k` belongs to request `q`. -/
def Entry (s : RtState π) (k : Int32) (q : Nat) : Prop :=
  ∃ ctx, s.client.reqContexts[k]? = some ctx ∧ ctx.request = q

/-- The table, the counter, the requests in flight and the callbacks in progress fit together. -/
structure Inv (s : RtState π) : Prop where
  count : s.client.nextCid.toInt = s.issued
  keys : ∀ k q, s.Entry k q → 0 ≤ k.toInt ∧ k.toInt < s.client.nextCid.toInt
  known : ∀ k q, s.Entry k q → q < s.requests.length
  unique : ∀ k k' q, s.Entry k q → s.Entry k' q → k = k'
  /-- a request in flight has its entry, and no callback of its own is in progress -/
  sent : ∀ q cid, (q, cid) ∈ s.inFlight →
    ∃ k, cid = toString k ∧ s.Entry k q ∧ ∀ f ∈ s.stack, f.erase ≠ some k
  once : (s.inFlight.map Prod.fst).Nodup
  frames : ∀ f ∈ s.stack, ∀ k, f.erase = some k → ∃ q, s.Entry k q
  framesOnce : (s.stack.filterMap Frame.erase).Nodup
  toCause : ∀ origin call q, (origin, call) ∈ s.deliveries → callee call = some q →
    origin = some q
  toOne : ∀ q call, (some q, call) ∈ s.deliveries → Notifies q call

theorem inv_init : Inv ({} : RtState π) := by
  have hno : ∀ k q, ¬ Entry ({} : RtState π) k q := by
    rintro k q ⟨ctx, hctx, -⟩
    simp at hctx
  constructor
  · rfl
  · exact fun k q h => absurd h (hno k q)
  · exact fun k q h => absurd h (hno k q)
  · exact fun k k' q h => absurd h (hno k q)
  all_goals simp

/-! ## Issuing a request -/

theorem entry_inj {s : RtState π} {k : Int32} {q q' : Nat} (h : s.Entry k q) (h' : s.Entry k q') :
    q = q' := by
  obtain ⟨ctx, hctx, rfl⟩ := h
  obtain ⟨ctx', hctx', rfl⟩ := h'
  rw [Option.some.inj (hctx.symm.trans hctx')]

theorem no_entry_of_resets {s : RtState π} (h : s.client.resets = true) (k : Int32) (q : Nat) :
    ¬ s.Entry k q := by
  rintro ⟨ctx, hctx, -⟩
  simp only [NRtClient.resets, Bool.and_eq_true] at h
  rw [ExtTreeMap.isEmpty_iff.1 h.1] at hctx
  simp at hctx

/-- The next id is not in the table, whether the counter is reset or not. -/
theorem Inv.fresh {s : RtState π} (hi : Inv s) (q : Nat) :
    ¬ s.Entry s.client.resetCid.nextCid q := by
  intro he
  by_cases hr : s.client.resets = true
  · exact no_entry_of_resets hr _ q he
  · have := (hi.keys _ q he).2
    simp only [NRtClient.resetCid, hr] at this
    exact absurd this (lt_irrefl _)

theorem reqContexts_none_of_fresh {s : RtState π} (hi : Inv s) :
    s.client.reqContexts[s.client.resetCid.nextCid]? = none := by
  cases hctx : s.client.reqContexts[s.client.resetCid.nextCid]? with
  | none => rfl
  | some ctx => exact absurd ⟨ctx, hctx, rfl⟩ (hi.fresh ctx.request)

theorem nextCid_toInt {s : RtState π} (hi : Inv s) :
    s.client.resetCid.nextCid.toInt + 1 = s.issuedNext := by
  unfold NRtClient.resetCid issuedNext
  split
  · rfl
  · have := hi.count
    push_cast
    omega

/-- The table after `createReqContext`: the new entry is there, and every old one. -/
theorem getElem?_createReqContext {s : RtState π} (hi : Inv s) (ctx : RtRequestContext) (k : Int32) :
    (s.client.createReqContext ctx).1.reqContexts[k]? =
      if s.client.resetCid.nextCid = k then some ctx else s.client.reqContexts[k]? := by
  have hno : s.client.resetCid.nextCid ∉ s.client.reqContexts := by
    rw [ExtTreeMap.mem_iff_isSome_getElem?, reqContexts_none_of_fresh hi]
    simp
  simp only [NRtClient.createReqContext, NRtClient.resetCid_reqContexts,
    ExtTreeMap.getElem?_insertIfNew]
  by_cases hk : s.client.resetCid.nextCid = k
  · subst hk; simp [hno]
  · simp [hk]

theorem entry_issue {s : RtState π} (hi : Inv s) (sc ec : Bool) (k : Int32) (q : Nat) :
    (s.issue sc ec).Entry k q ↔
      s.Entry k q ∨ (k = s.client.resetCid.nextCid ∧ q = s.requests.length) := by
  unfold Entry
  simp only [issue, getElem?_createReqContext hi]
  by_cases hk : s.client.resetCid.nextCid = k
  · subst hk
    simp [reqContexts_none_of_fresh hi, eq_comm]
  · simp [hk, Ne.symm hk]

/-- The request `q` holds entry `k`, is not in flight and has no callback in progress. -/
structure Held (s : RtState π) (k : Int32) (q : Nat) : Prop where
  entry : s.Entry k q
  notSent : ∀ cid, (q, cid) ∉ s.inFlight
  noFrame : ∀ f ∈ s.stack, f.erase ≠ some k

theorem Inv.issue {s : RtState π} (hi : Inv s) (sc ec : Bool) (hb : s.issuedNext < 2 ^ 31) :
    Inv (s.issue sc ec) ∧ (s.issue sc ec).Held s.client.resetCid.nextCid s.requests.length := by
  have hent := entry_issue hi sc ec
  have hnext := nextCid_toInt hi
  have hcid : (s.client.resetCid.nextCid + 1).toInt = s.client.resetCid.nextCid.toInt + 1 := by
    rw [Int32.toInt_add]
    have h0 : (0 : Int) ≤ s.issued := Int.natCast_nonneg _
    have : 0 < s.issuedNext := by unfold issuedNext; omega
    have h1 : (1 : Int32).toInt = 1 := rfl
    rw [h1, Int.bmod_eq_of_le (by omega) (by omega)]
  -- an entry that was there before keeps its key below the counter
  have hold : ∀ k q, s.Entry k q → 0 ≤ k.toInt ∧
      k.toInt < s.client.resetCid.nextCid.toInt := by
    intro k q he
    have := hi.keys k q he
    unfold NRtClient.resetCid
    split
    · next hr => exact absurd he (no_entry_of_resets hr k q)
    · exact this
  refine ⟨⟨?_, ?_, ?_, ?_, ?_, hi.once, ?_, hi.framesOnce, hi.toCause, hi.toOne⟩, ?_⟩
  · simp only [RtState.issue, NRtClient.createReqContext]
    rw [hcid]
    exact hnext
  · intro k q he
    simp only [RtState.issue, NRtClient.createReqContext]
    rw [hcid]
    rcases (hent k q).1 he with he | ⟨rfl, -⟩
    · have := hold k q he
      omega
    · have : 0 < s.issuedNext := by unfold issuedNext; omega
      omega
  · intro k q he
    simp only [RtState.issue, List.length_append, List.length_singleton]
    rcases (hent k q).1 he with he | ⟨-, rfl⟩
    · have := hi.known k q he
      omega
    · omega
  · intro k k' q he he'
    rcases (hent k q).1 he with he | ⟨rfl, rfl⟩ <;> rcases (hent k' _).1 he' with he' | ⟨rfl, hq⟩
    · exact hi.unique k k' q he he'
    · have := hi.known k q he
      omega
    · have := hi.known k' _ he'
      omega
    · rfl
  · intro q cid hq
    obtain ⟨k, rfl, he, hf⟩ := hi.sent q cid hq
    exact ⟨k, rfl, (hent k q).2 (.inl he), hf⟩
  · intro f hf k hk
    obtain ⟨q, he⟩ := hi.frames f hf k hk
    exact ⟨q, (hent k q).2 (.inl he)⟩
  · refine ⟨(hent _ _).2 (.inr ⟨rfl, rfl⟩), ?_, ?_⟩
    · intro cid hq
      obtain ⟨k, -, he, -⟩ := hi.sent _ cid hq
      exact absurd (hi.known k _ he) (lt_irrefl _)
    · intro f hf hk
      obtain ⟨q, he⟩ := hi.frames f hf _ hk
      exact hi.fresh q he

/-! ## Entering and leaving user code -/

theorem getElem?_eraseReq (c : NRtClient) (k k' : Int32) :
    (c.eraseReq (some k)).reqContexts[k']? = if k = k' then none else c.reqContexts[k']? := by
  simp [NRtClient.eraseReq, ExtTreeMap.getElem?_erase]

theorem entry_finish (s : RtState π) (k : Int32) (b : Bool) (k' : Int32) (q : Nat) :
    (s.finish ⟨some k, b⟩).Entry k' q ↔ s.Entry k' q ∧ k ≠ k' := by
  unfold Entry
  simp only [finish, getElem?_eraseReq]
  by_cases hk : k = k'
  · simp [hk]
  · simp [hk]

/-- Erasing the entry of a request that is neither in flight nor in a callback. -/
theorem Inv.erase {s : RtState π} (hi : Inv s) {k : Int32} {q : Nat} (hh : s.Held k q) (b : Bool) :
    Inv (s.finish ⟨some k, b⟩) := by
  have hent := entry_finish s k b
  refine ⟨hi.count, ?_, ?_, ?_, ?_, hi.once, ?_, hi.framesOnce, hi.toCause, hi.toOne⟩
  · exact fun k' q' he => hi.keys k' q' ((hent k' q').1 he).1
  · exact fun k' q' he => hi.known k' q' ((hent k' q').1 he).1
  · exact fun k' k'' q' he he' => hi.unique k' k'' q' ((hent k' q').1 he).1 ((hent k'' q').1 he').1
  · intro q' cid hq
    obtain ⟨k', rfl, he, hf⟩ := hi.sent q' cid hq
    refine ⟨k', rfl, (hent k' q').2 ⟨he, ?_⟩, hf⟩
    rintro rfl
    obtain rfl := entry_inj hh.entry he
    exact hh.notSent _ hq
  · intro f hf k' hk'
    obtain ⟨q', he⟩ := hi.frames f hf k' hk'
    refine ⟨q', (hent k' q').2 ⟨he, ?_⟩⟩
    rintro rfl
    exact hh.noFrame f hf hk'

/-- The calls of a dispatch that erases the entry of a request which nobody else is about to
answer, or none. -/
theorem Inv.enter {s : RtState π} (hi : Inv s) {origin : Option Nat} {d : Dispatch π}
    (herase : ∀ k, d.erase = some k → ∃ q, s.Held k q)
    (hcause : ∀ call ∈ d.calls, ∀ q, callee call = some q → origin = some q)
    (hone : ∀ call ∈ d.calls, ∀ q, origin = some q → Notifies q call) (b : Bool) :
    Inv (s.enter origin d b) := by
  unfold RtState.enter
  split
  · cases hd : d.erase with
    | none =>
      exact ⟨hi.count, hi.keys, hi.known, hi.unique, hi.sent, hi.once, hi.frames, hi.framesOnce,
        hi.toCause, hi.toOne⟩
    | some k =>
      obtain ⟨q, hh⟩ := herase k hd
      exact hi.erase hh b
  · refine ⟨hi.count, hi.keys, hi.known, hi.unique, ?_, hi.once, ?_, ?_, ?_, ?_⟩
    · intro q cid hq
      obtain ⟨k, rfl, he, hf⟩ := hi.sent q cid hq
      refine ⟨k, rfl, he, ?_⟩
      intro f hf'
      rcases List.mem_cons.1 hf' with rfl | hf'
      · intro hk
        obtain ⟨q', hh⟩ := herase k hk
        obtain rfl := entry_inj hh.entry he
        exact hh.notSent _ hq
      · exact hf f hf'
    · intro f hf k hk
      rcases List.mem_cons.1 hf with rfl | hf
      · obtain ⟨q, hh⟩ := herase k hk
        exact ⟨q, hh.entry⟩
      · exact hi.frames f hf k hk
    · cases hd : d.erase with
      | none =>
        simp only [List.filterMap_cons]
        exact hi.framesOnce
      | some k =>
        obtain ⟨q, hh⟩ := herase k hd
        simp only [List.filterMap_cons, List.nodup_cons, List.mem_filterMap, not_exists, not_and]
        exact ⟨hh.noFrame, hi.framesOnce⟩
    · intro origin' call q hmem hc
      rcases List.mem_append.1 hmem with hmem | hmem
      · exact hi.toCause origin' call q hmem hc
      · obtain ⟨call', hcall, heq⟩ := List.mem_map.1 hmem
        obtain ⟨rfl, rfl⟩ := Prod.mk.inj heq
        exact hcause call' hcall q hc
    · intro q call hmem
      rcases List.mem_append.1 hmem with hmem | hmem
      · exact hi.toOne q call hmem
      · obtain ⟨call', hcall, heq⟩ := List.mem_map.1 hmem
        obtain ⟨hq, rfl⟩ := Prod.mk.inj heq
        exact hone call' hcall q hq

/-- A message or a failure that concerns request `q`, whose entry is erased at the end. -/
theorem Inv.enterHeld {s : RtState π} (hi : Inv s) {k : Int32} {q : Nat} (hh : s.Held k q)
    {d : Dispatch π} (hd : d.erase = some k) (hcalls : ∀ call ∈ d.calls, Notifies q call) (b : Bool) :
    Inv (s.enter (some q) d b) := by
  apply hi.enter
  · intro k' hk'
    obtain rfl : k = k' := Option.some.inj (hd.symm.trans hk')
    exact ⟨q, hh⟩
  · intro call hcall q' hc
    rcases hcalls call hcall with h | ⟨e, rfl⟩
    · rw [h] at hc
      exact hc
    · cases hc
  · intro call hcall q' hq
    obtain rfl := Option.some.inj hq
    exact hcalls call hcall

/-- A call that concerns no request. -/
theorem Inv.enterNone {s : RtState π} (hi : Inv s) {d : Dispatch π} (hd : d.erase = none)
    (hcalls : ∀ call ∈ d.calls, callee call = none) (b : Bool) : Inv (s.enter none d b) := by
  apply hi.enter
  · intro k hk
    rw [hd] at hk
    cases hk
  · intro call hcall q hc
    rw [hcalls call hcall] at hc
    cases hc
  · intro call _ q hq
    cases hq

theorem callee_listener (set : Bool) (call : ListenerCall π) :
    ∀ c ∈ (if set then [UserCall.listener call] else []), callee c = none := by
  intro c hc
  split at hc
  · exact List.mem_singleton.1 hc ▸ rfl
  · cases hc

/-- A callback that returns or throws is the one of the topmost frame. -/
theorem Inv.pop {s : RtState π} (hi : Inv s) {f : Frame} {stack : List Frame}
    (hs : s.stack = f :: stack) : Inv { s with stack } := by
  have hsub : ∀ g ∈ stack, g ∈ s.stack := fun g hg => hs ▸ List.mem_cons_of_mem _ hg
  refine ⟨hi.count, hi.keys, hi.known, hi.unique, ?_, hi.once,
    fun g hg => hi.frames g (hsub g hg), ?_, hi.toCause, hi.toOne⟩
  · intro q cid hq
    obtain ⟨k, rfl, he, hf⟩ := hi.sent q cid hq
    exact ⟨k, rfl, he, fun g hg => hf g (hsub g hg)⟩
  · have := hi.framesOnce
    rw [hs] at this
    exact this.sublist (List.Sublist.filterMap _ (List.sublist_cons_self f stack))

/-- The entry a frame is about to erase belongs to no request in flight and to no other frame. -/
theorem Inv.held_of_pop {s : RtState π} (hi : Inv s) {f : Frame} {stack : List Frame}
    (hs : s.stack = f :: stack) {k : Int32} (hk : f.erase = some k) :
    ∃ q, Held { s with stack } k q := by
  obtain ⟨q, he⟩ := hi.frames f (hs ▸ List.mem_cons_self) k hk
  refine ⟨q, he, ?_, ?_⟩
  · intro cid hq
    obtain ⟨k', rfl, he', hf⟩ := hi.sent q cid hq
    obtain rfl := hi.unique k k' q he he'
    exact hf f (hs ▸ List.mem_cons_self) hk
  · intro g hg hgk
    have := hi.framesOnce
    rw [hs, List.filterMap_cons, hk, List.nodup_cons] at this
    exact this.1 (List.mem_filterMap.2 ⟨g, hg, hgk⟩)

/-! ## One step -/

theorem send_toString (connected serializes sends : Bool) (cid : Int32) :
    NRtClient.send connected serializes sends (toString cid) = .ok none ∨
    ∃ e b, NRtClient.send connected serializes sends (toString cid) = .ok (some ⟨cid, e, b⟩) := by
  unfold NRtClient.send
  rw [stoi_toString]
  cases connected <;> cases serializes <;> cases sends <;>
    simp [bind, Except.bind, pure, Except.pure]

/-- Without a cid every failure of `send` throws. -/
theorem send_empty (connected serializes sends : Bool) :
    NRtClient.send connected serializes sends "" = .ok none ∨
    NRtClient.send connected serializes sends "" = .error .invalidArgument := by
  have hs : stoi "" = .error .invalidArgument := by decide
  unfold NRtClient.send
  rw [hs]
  cases connected <;> cases serializes <;> cases sends <;> simp [bind, Except.bind]

theorem afterSend_empty (s : RtState π) (connected serializes sends : Bool) :
    s.afterSend none "" (NRtClient.send connected serializes sends "") = s := by
  rcases send_empty connected serializes sends with h | h <;> simp [h, afterSend]

/-- A local failure of a request tells its caller and erases its entry. -/
theorem reqInternalError_spec {s : RtState π} {k : Int32} {q : Nat} (he : s.Entry k q)
    (e : NRtError) :
    (s.client.reqInternalError k e : Dispatch π).erase = some k ∧
    ∀ call ∈ (s.client.reqInternalError k e : Dispatch π).calls, Notifies q call := by
  obtain ⟨ctx, hctx, rfl⟩ := he
  simp only [NRtClient.reqInternalError, hctx, true_and]
  intro call hcall
  split at hcall
  · obtain rfl := List.mem_singleton.1 hcall
    exact .inl rfl
  · split at hcall
    · obtain rfl := List.mem_singleton.1 hcall
      exact .inr ⟨e, rfl⟩
    · cases hcall

/-- The answer to a pending request tells its caller and erases its entry. -/
theorem dispatchMessage_answer {s : RtState π} {k : Int32} {q : Nat} (he : s.Entry k q)
    (connected : Bool) (msg : Envelope π) :
    ∃ ctx, s.client.reqContexts[k]? = some ctx ∧ ctx.request = q ∧
      s.client.dispatchMessage connected (some { msg with cid := toString k }) =
        .ok ⟨s.client.answerCalls ctx { msg with cid := toString k }, some k⟩ := by
  obtain ⟨ctx, hctx, rfl⟩ := he
  refine ⟨ctx, hctx, rfl, ?_⟩
  simp [NRtClient.dispatchMessage, NRtClient.toString_ne_empty, stoi_toString, hctx, bind,
    Except.bind, pure, Except.pure]

theorem answerCalls_notifies (c : NRtClient) (ctx : RtRequestContext) (msg : Envelope π) :
    ∀ call ∈ c.answerCalls ctx msg, Notifies ctx.request call := by
  intro call hcall
  unfold NRtClient.answerCalls at hcall
  split_ifs at hcall
  · exact .inl (List.mem_singleton.1 hcall ▸ rfl)
  · exact .inr ⟨msg.error, List.mem_singleton.1 hcall⟩
  · cases hcall
  · exact .inl (List.mem_singleton.1 hcall ▸ rfl)
  · cases hcall

theorem onTransportError_spec (c : NRtClient) (connected : Bool) (description : String) :
    (c.onTransportError connected description : Dispatch π).erase = none ∧
    ∀ call ∈ (c.onTransportError connected description : Dispatch π).calls, callee call = none := by
  exact ⟨rfl, callee_listener _ _⟩

/-- A frame that names no pending request reaches the listener, if anybody. -/
theorem dispatchMessage_unsolicited {s : RtState π} {parsed : Option (Envelope π)}
    (h : s.unsolicited parsed = true) (connected : Bool) :
    (∃ e, s.client.dispatchMessage connected parsed = .error e) ∨
    ∃ d, s.client.dispatchMessage connected parsed = .ok d ∧ d.erase = none ∧
      ∀ call ∈ d.calls, callee call = none := by
  cases parsed with
  | none => exact .inr ⟨_, rfl, onTransportError_spec _ _ _⟩
  | some msg =>
    by_cases hcid : msg.cid = ""
    · refine .inr ⟨s.client.dispatchPush connected msg, by simp [NRtClient.dispatchMessage, hcid], ?_⟩
      unfold NRtClient.dispatchPush
      split
      · split
        · exact ⟨rfl, fun call hcall => List.mem_singleton.1 hcall ▸ rfl⟩
        · split
          · exact ⟨rfl, fun call hcall => List.mem_singleton.1 hcall ▸ rfl⟩
          · exact onTransportError_spec _ _ _
      · refine ⟨rfl, ?_⟩
        intro call hcall
        cases hcall
    · have hne : (msg.cid == "") = false := beq_eq_false_iff_ne.2 hcid
      simp only [unsolicited, hne, Bool.false_or] at h
      simp only [NRtClient.dispatchMessage, hcid, if_false]
      cases hs : stoi msg.cid with
      | error e => exact .inl ⟨e, rfl⟩
      | ok k =>
        rw [hs] at h
        have hno : s.client.reqContexts[k]? = none := Option.isNone_iff_eq_none.1 h
        refine .inr ⟨s.client.onTransportError connected ("request context not found. cid: " ++ msg.cid),
          ?_, onTransportError_spec _ _ _⟩
        simp only [bind, Except.bind, hno, pure, Except.pure]

/-- The request that is answered leaves the requests in flight. -/
theorem Inv.answer {s : RtState π} (hi : Inv s) {q : Nat} {cid : String} (hq : (q, cid) ∈ s.inFlight) :
    Inv { s with inFlight := s.inFlight.filter fun p => p.1 != q } ∧
    ∃ k, cid = toString k ∧ Held { s with inFlight := s.inFlight.filter fun p => p.1 != q } k q := by
  have hsub : ∀ p ∈ s.inFlight.filter (fun p => p.1 != q), p ∈ s.inFlight ∧ p.1 ≠ q := by
    intro p hp
    obtain ⟨hp, hne⟩ := List.mem_filter.1 hp
    exact ⟨hp, by simpa using hne⟩
  obtain ⟨k, rfl, he, hf⟩ := hi.sent q cid hq
  refine ⟨⟨hi.count, hi.keys, hi.known, hi.unique, ?_, ?_, hi.frames, hi.framesOnce, hi.toCause,
    hi.toOne⟩, k, rfl, he, ?_, hf⟩
  · exact fun q' cid' hq' => hi.sent q' cid' (hsub _ hq').1
  · exact hi.once.sublist (List.Sublist.map _ List.filter_sublist)
  · exact fun cid' hq' => (hsub _ hq').2 rfl

/-- A transmitted request. -/
theorem Inv.transmit {s : RtState π} (hi : Inv s) {k : Int32} {q : Nat} (hh : s.Held k q) :
    Inv { s with inFlight := s.inFlight ++ [(q, toString k)] } := by
  refine ⟨hi.count, hi.keys, hi.known, hi.unique, ?_, ?_, hi.frames, hi.framesOnce, hi.toCause,
    hi.toOne⟩
  · intro q' cid hq
    rcases List.mem_append.1 hq with hq | hq
    · exact hi.sent q' cid hq
    · obtain ⟨rfl, rfl⟩ := Prod.mk.inj (List.mem_singleton.1 hq)
      exact ⟨k, rfl, hh.entry, hh.noFrame⟩
  · rw [List.map_append, List.nodup_append]
    refine ⟨hi.once, by simp, ?_⟩
    intro a ha b hb hab
    obtain ⟨⟨q', cid⟩, hq', rfl⟩ := List.mem_map.1 ha
    obtain rfl : b = q := by simpa using hb
    simp only at hab
    exact hh.notSent cid (hab ▸ hq')

/-- A request is transmitted, or it fails before `send` returns. -/
theorem request_cases {s s' : RtState π} {sc ec serializes sends : Bool}
    (h : s.step (.request sc ec serializes sends) = some s') :
    s' = { s.issue sc ec with
      inFlight := s.inFlight ++ [(s.requests.length, toString s.client.resetCid.nextCid)] } ∨
    ∃ e b, s' = (s.issue sc ec).enter (some s.requests.length)
      ((s.issue sc ec).client.reqInternalError s.client.resetCid.nextCid e) b := by
  obtain rfl := Option.some.inj h
  have hcid : (s.client.createReqContext ⟨s.requests.length, sc, ec⟩).2 =
      s.client.resetCid.nextCid := rfl
  rw [hcid]
  rcases send_toString s.connected serializes sends s.client.resetCid.nextCid with
    hsend | ⟨e, b, hsend⟩
  · rw [hsend]
    exact .inl rfl
  · rw [hsend]
    exact .inr ⟨e, b, rfl⟩

/-- The answer leaves the requests in flight and goes to the request it is for. -/
theorem answer_cases {s s' : RtState π} (hi : Inv s) {q : Nat} {msg : Envelope π}
    (h : s.step (.answer q msg) = some s') :
    ∃ k ctx, (q, toString k) ∈ s.inFlight ∧
      Held { s with inFlight := s.inFlight.filter fun p => p.1 != q } k q ∧
      s.client.reqContexts[k]? = some ctx ∧ ctx.request = q ∧
      s' = { s with inFlight := s.inFlight.filter fun p => p.1 != q }.enter (some q)
        ⟨s.client.answerCalls ctx { msg with cid := toString k }, some k⟩ false := by
  simp only [RtState.step] at h
  split at h
  · next q' cid hfind =>
    obtain rfl := Option.some.inj h
    have hmem := List.mem_of_find?_eq_some hfind
    obtain rfl : q' = q := by simpa using List.find?_some hfind
    obtain ⟨-, k, rfl, hh⟩ := hi.answer hmem
    obtain ⟨ctx, hctx, hq, hd⟩ := dispatchMessage_answer hh.entry s.connected msg
    refine ⟨k, ctx, hmem, hh, hctx, hq, ?_⟩
    unfold receive
    simp only at hd ⊢
    rw [hd]
  · cases h

/-- A frame that names no pending request throws, or goes to the listener if anybody. -/
theorem push_cases {s s' : RtState π} {parsed : Option (Envelope π)}
    (h : s.step (.push parsed) = some s') :
    s' = s ∨ ∃ d : Dispatch π, d.erase = none ∧ (∀ call ∈ d.calls, callee call = none) ∧
      s' = s.enter none d false := by
  simp only [RtState.step] at h
  split at h
  · next hu =>
    obtain rfl := Option.some.inj h
    unfold receive
    rcases dispatchMessage_unsolicited hu s.connected with ⟨e, hd⟩ | ⟨d, hd, herase, hcalls⟩
    · rw [hd]
      exact .inl rfl
    · rw [hd]
      exact .inr ⟨d, herase, hcalls, rfl⟩
  · cases h

theorem Inv.step {s s' : RtState π} {a : RtAction π} (hi : Inv s) (hb : s.idsBounded a = true)
    (h : s.step a = some s') : Inv s' := by
  cases a with
  | setListener set =>
    obtain rfl := Option.some.inj h
    refine ⟨hi.count, hi.keys, ?_, hi.unique, hi.sent, hi.once, hi.frames, hi.framesOnce, hi.toCause,
      hi.toOne⟩
    intro k q he
    have := hi.known k q he
    simp only
    split
    · exact this
    · simpa using this
  | request sc ec serializes sends =>
    obtain ⟨hi', hh⟩ := hi.issue sc ec (by simpa [idsBounded] using hb)
    rcases request_cases h with rfl | ⟨e, b, rfl⟩
    · exact hi'.transmit hh
    · obtain ⟨hd, hcalls⟩ := reqInternalError_spec hh.entry e
      exact hi'.enterHeld hh hd hcalls b
  | sendMatchData serializes sends =>
    obtain rfl := Option.some.inj h
    rw [afterSend_empty]
    exact hi
  | disconnect =>
    obtain rfl := Option.some.inj h
    exact ⟨hi.count, hi.keys, hi.known, hi.unique, hi.sent, hi.once, hi.frames, hi.framesOnce,
      hi.toCause, hi.toOne⟩
  | dropped =>
    obtain rfl := Option.some.inj h
    exact ⟨hi.count, hi.keys, hi.known, hi.unique, hi.sent, hi.once, hi.frames, hi.framesOnce,
      hi.toCause, hi.toOne⟩
  | opened =>
    obtain rfl := Option.some.inj h
    have hi' : Inv { s with connected := true, conn := s.conn + 1 } :=
      ⟨hi.count, hi.keys, hi.known, hi.unique, hi.sent, hi.once, hi.frames, hi.framesOnce, hi.toCause,
        hi.toOne⟩
    exact hi'.enterNone rfl (callee_listener _ _) false
  | ended c =>
    simp only [RtState.step] at h
    split at h
    · obtain rfl := Option.some.inj h
      have hi' : Inv { s with connected := false, ended := c :: s.ended } :=
        ⟨hi.count, hi.keys, hi.known, hi.unique, hi.sent, hi.once, hi.frames, hi.framesOnce,
          hi.toCause, hi.toOne⟩
      exact hi'.enterNone rfl (callee_listener _ _) false
    · cases h
  | transportError description =>
    obtain rfl := Option.some.inj h
    obtain ⟨hd, hcalls⟩ := onTransportError_spec (π := π) s.client s.connected description
    exact hi.enterNone hd hcalls false
  | answer q msg =>
    obtain ⟨k, ctx, hmem, hh, -, rfl, rfl⟩ := answer_cases hi h
    exact (hi.answer hmem).1.enterHeld hh rfl (answerCalls_notifies _ ctx _) false
  | push parsed =>
    rcases push_cases h with rfl | ⟨d, herase, hcalls, rfl⟩
    · exact hi
    · exact hi.enterNone herase hcalls false
  | callbackReturns =>
    simp only [RtState.step] at h
    split at h
    · next f stack hs =>
      obtain rfl := Option.some.inj h
      have hi' := hi.pop hs
      cases hk : f.erase with
      | none =>
        simp only [finish, hk, NRtClient.eraseReq]
        exact ⟨hi'.count, hi'.keys, hi'.known, hi'.unique, hi'.sent, hi'.once, hi'.frames,
          hi'.framesOnce, hi'.toCause, hi'.toOne⟩
      | some k =>
        obtain ⟨q, hh⟩ := hi.held_of_pop hs hk
        have := hi'.erase hh f.disconnects
        rwa [← hk] at this
    · cases h
  | callbackThrows =>
    simp only [RtState.step] at h
    split at h
    · next f stack hs =>
      obtain rfl := Option.some.inj h
      exact hi.pop hs
    · cases h

theorem Reach.inv {s : RtState π} (h : Reach step (fun s a => idsBounded s a = true) {} s) : Inv s :=
  h.invariant inv_init fun _ _ _ hi hb hs => hi.step hb hs

/-! ## Correlation -/

/-- Every answer reaches the request that caused it, pending and transmitted
requests have different cids, and the next id is a free one. -/
structure Correlated (s : RtState π) : Prop where
  onlyCause : ∀ origin call q, (origin, call) ∈ s.deliveries → callee call = some q →
    origin = some q
  causeOnly : ∀ q call, (some q, call) ∈ s.deliveries →
    callee call = some q ∨ ∃ e, call = .listener (.onError e)
  sentDistinct : (s.inFlight.map Prod.snd).Nodup
  entriesDistinct : ∀ k k' q q', s.Entry k q → s.Entry k' q' →
    (toString k = toString k' ↔ q = q')
  sentEntries : ∀ k q q' cid, s.Entry k q → (q', cid) ∈ s.inFlight → (toString k = cid ↔ q = q')
  freshEntry : ∀ ctx, s.client.reqContexts[(s.client.createReqContext ctx).2]? = none ∧
    (s.client.createReqContext ctx).1.reqContexts[(s.client.createReqContext ctx).2]? = some ctx

/-- **Correlation.**  When the server answers each transmitted request at most
once and with its cid, and fewer than 2^31 ids are issued between two resets of
the counter, every reachable state is correlated. -/
theorem correlation {s : RtState π} (h : Reach step (fun s a => idsBounded s a = true) {} s) :
    Correlated s := by
  have hi := Reach.inv h
  have hsent : ∀ k q q' cid, s.Entry k q → (q', cid) ∈ s.inFlight →
      (toString k = cid ↔ q = q') := by
    intro k q q' cid he hq
    obtain ⟨k', rfl, he', -⟩ := hi.sent q' cid hq
    constructor
    · intro hk
      obtain rfl := toString_inj hk
      exact entry_inj he he'
    · rintro rfl
      rw [hi.unique k k' q he he']
  refine ⟨hi.toCause, hi.toOne, ?_, ?_, hsent, ?_⟩
  · refine List.Nodup.map_on ?_ (List.Nodup.of_map _ hi.once)
    rintro ⟨q, cid⟩ hq ⟨q', cid'⟩ hq' rfl
    obtain ⟨k, rfl, he, -⟩ := hi.sent q _ hq
    rw [(hsent k q q' _ he hq').1 rfl]
  · intro k k' q q' he he'
    constructor
    · intro hk
      obtain rfl := toString_inj hk
      exact entry_inj he he'
    · rintro rfl
      rw [hi.unique k k' q he he']
  · intro ctx
    have hcid : (s.client.createReqContext ctx).2 = s.client.resetCid.nextCid := rfl
    rw [hcid, getElem?_createReqContext hi]
    exact ⟨reqContexts_none_of_fresh hi, if_pos rfl⟩

/-- Two requests, the first made by the listener, are answered in reverse order, the first one
while the callback of the other is running. -/
def answeredRun : List (RtAction Unit) :=
  [.setListener true, .opened, .request true true true true, .callbackReturns,
    .request true true true true, .answer 1 { messageCase := .rpc, payload := () },
    .answer 0 { messageCase := .channel, payload := () }, .callbackReturns, .callbackReturns]

theorem correlation_answeredRun :
    ∃ s : RtState Unit, exec step (fun s a => idsBounded s a = true) {} answeredRun = some s ∧
      Correlated s :=
  have h : (exec step (fun s a => idsBounded s a = true) {} answeredRun).isSome = true := by decide
  ⟨_, (Option.some_get h).symm, correlation (Reach.get_exec answeredRun h)⟩

end RtState

end NakamaCpp.Realtime
