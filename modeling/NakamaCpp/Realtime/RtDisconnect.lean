import NakamaCpp.Realtime.RtRun

/-!
# Ends of connections

`onTransportDisconnected` tells the listener and leaves `_reqContexts` as it is,
so a request is settled by its own answer or by a local failure and by nothing
else.  `settles` asks of a run that these come before the connection ends; then
every request of an ended connection has been told its fate once, and none of
them is left in the table.

    Reach step settles {} s  →  c ∈ s.ended  →  ConnectionSettled s c
-/

namespace NakamaCpp.Realtime

open CppStd Std Transition

namespace RtState

variable {π : Type}

/-- The connection request `q` was issued on. -/
def connOf (s : RtState π) (q : Nat) : Option Nat := s.requests[q]?.bind Request.conn

/-- What request `q` has been told. -/
def notifications (s : RtState π) (q : Nat) : List (Option Nat × UserCall π) :=
  s.deliveries.filter fun p => p.1 == some q

/-- Some request of connection `c` waits for its answer, or for its callback to return. -/
def outstanding (s : RtState π) (c : Nat) : Bool :=
  s.inFlight.any (fun p => s.connOf p.1 == some c) ||
  s.stack.any fun f =>
    match f.erase.bind fun k => s.client.reqContexts[k]? with
    | some ctx => s.connOf ctx.request == some c
    | none => false

/-- The steps under which every request is settled before its connection ends:
a connection ends with nothing outstanding on it, a request without success
callback is only ever refused, and the callbacks of requests do not throw. -/
def settles (s : RtState π) (a : RtAction π) : Bool :=
  s.idsBounded a &&
  match a with
  | .ended c => !s.outstanding c
  | .answer q msg => msg.hasError || s.requests[q]?.any Request.successCallback
  | .callbackThrows => s.stack.head?.all fun f => f.erase.isNone
  | _ => true

/-- Every request of the connection that asked for it has been told its fate,
once, and the connection has no entry left in the table. -/
structure ConnectionSettled (s : RtState π) (c : Nat) : Prop where
  told : ∀ q r, s.requests[q]? = some r → r.conn = some c → r.listening = true →
    ∃ call, s.notifications q = [(some q, call)] ∧ Notifies q call
  noEntry : ∀ k q, s.Entry k q → s.connOf q ≠ some c

/-! ## Invariant -/

/-- The bookkeeping behind `ConnectionSettled`, while request `busy` is between
its answer or failure and the call that tells of it. -/
structure Settling (s : RtState π) (busy : Option Nat) : Prop where
  kept : ∀ r ∈ s.requests, r.listenerKept = true → s.client.listener = true
  callbacks : ∀ (k : Int32) (ctx : RtRequestContext) (r : Request), s.client.reqContexts[k]? = some ctx →
    s.requests[ctx.request]? = some r →
    ctx.successCallback = r.successCallback ∧ ctx.errorCallback = r.errorCallback
  covered : ∀ k q, s.Entry k q →
    (∃ cid, (q, cid) ∈ s.inFlight) ∨ (∃ f ∈ s.stack, f.erase = some k) ∨ busy = some q
  told : ∀ q r, s.requests[q]? = some r → (∀ cid, (q, cid) ∉ s.inFlight) → busy ≠ some q →
    r.listening = true → (s.notifications q).length = 1
  untold : ∀ q, ((∃ cid, (q, cid) ∈ s.inFlight) ∨ busy = some q ∨ s.requests.length ≤ q) →
    s.notifications q = []
  live : ∀ c ∈ s.ended, c ≤ s.conn ∧ (s.connected = true → c ≠ s.conn)
  endedNone : ∀ c ∈ s.ended, ∀ k q, s.Entry k q → s.connOf q ≠ some c

theorem settling_init : Settling ({} : RtState π) none := by
  have hno : ∀ k q, ¬ Entry ({} : RtState π) k q := by
    rintro k q ⟨ctx, hctx, -⟩
    simp at hctx
  refine ⟨by simp, by simp, fun k q h => absurd h (hno k q), by simp, ?_, by simp, by simp⟩
  intro q _
  rfl

/-- A fresh request: nothing is known of it yet. -/
theorem Settling.issue {s : RtState π} (hi : Inv s) (hs : Settling s none) (sc ec : Bool) :
    Settling (s.issue sc ec) (some s.requests.length) := by
  have hent := entry_issue hi sc ec
  have hlt : ∀ q r, (s.issue sc ec).requests[q]? = some r → q ≠ s.requests.length →
      s.requests[q]? = some r := by
    intro q r hq hne
    simp only [RtState.issue] at hq
    rcases Nat.lt_or_ge q s.requests.length with h | h
    · rwa [List.getElem?_append_left h] at hq
    · have := (List.getElem?_eq_some_iff.1 hq).1
      simp only [List.length_append, List.length_singleton] at this
      omega
  have hold : ∀ q, q < s.requests.length → (s.issue sc ec).requests[q]? = s.requests[q]? := by
    intro q hq
    simp only [RtState.issue, List.getElem?_append_left hq]
  have hnew : (s.issue sc ec).requests[s.requests.length]? = some
      { conn := if s.connected then some s.conn else none
        successCallback := sc, errorCallback := ec, listenerKept := s.client.listener } := by
    simp [RtState.issue]
  have hlistener : (s.issue sc ec).client.listener = s.client.listener :=
    s.client.resetCid_listener
  refine ⟨?_, ?_, ?_, ?_, ?_, hs.live, ?_⟩
  · intro r hr hk
    rw [hlistener]
    rcases List.mem_append.1 hr with hr | hr
    · exact hs.kept r hr hk
    · obtain rfl := List.mem_singleton.1 hr
      exact hk
  · intro k ctx r hctx hr
    simp only [RtState.issue, getElem?_createReqContext hi] at hctx
    split at hctx
    · obtain rfl := Option.some.inj hctx
      obtain rfl := Option.some.inj (hnew.symm.trans hr)
      exact ⟨rfl, rfl⟩
    · have hq := hi.known k ctx.request ⟨ctx, hctx, rfl⟩
      exact hs.callbacks k ctx r hctx (hlt _ r hr (by omega))
  · intro k q he
    rcases (hent k q).1 he with he | ⟨-, rfl⟩
    · rcases hs.covered k q he with h | h | h
      · exact .inl h
      · exact .inr (.inl h)
      · cases h
    · exact .inr (.inr rfl)
  · intro q r hr hno hne hl
    exact hs.told q r (hlt q r hr fun h => hne (h ▸ rfl)) hno (by simp) hl
  · intro q hq
    refine hs.untold q ?_
    rcases hq with h | h | h
    · exact .inl h
    · exact .inr (.inr (Option.some.inj h).le)
    · simp only [RtState.issue, List.length_append, List.length_singleton] at h
      exact .inr (.inr (by omega))
  · intro c hc k q he
    rcases (hent k q).1 he with he | ⟨-, rfl⟩
    · have := hs.endedNone c hc k q he
      unfold connOf at this ⊢
      rwa [hold q (hi.known k q he)]
    · unfold connOf
      rw [hnew]
      simp only [Option.bind_some]
      split
      · next hconn =>
        have := (hs.live c hc).2 hconn
        simpa [eq_comm] using this
      · simp

/-- The busy request is transmitted. -/
theorem Settling.transmit {s : RtState π} {q : Nat} {cid : String} (hs : Settling s (some q)) :
    Settling { s with inFlight := s.inFlight ++ [(q, cid)] } none := by
  have hmem : ∀ q' cid', (q', cid') ∈ s.inFlight ++ [(q, cid)] ↔
      (q', cid') ∈ s.inFlight ∨ (q' = q ∧ cid' = cid) := by
    simp
  refine ⟨hs.kept, hs.callbacks, ?_, ?_, ?_, hs.live, hs.endedNone⟩
  · intro k q' he
    rcases hs.covered k q' he with ⟨cid', h⟩ | h | h
    · exact .inl ⟨cid', (hmem q' cid').2 (.inl h)⟩
    · exact .inr (.inl h)
    · obtain rfl := Option.some.inj h
      exact .inl ⟨cid, (hmem q cid).2 (.inr ⟨rfl, rfl⟩)⟩
  · intro q' r hr hno _ hl
    refine hs.told q' r hr (fun cid' h => hno cid' ((hmem q' cid').2 (.inl h))) ?_ hl
    rintro h
    obtain rfl := Option.some.inj h
    exact hno cid ((hmem q cid).2 (.inr ⟨rfl, rfl⟩))
  · intro q' h
    refine hs.untold q' ?_
    rcases h with ⟨cid', h⟩ | h | h
    · rcases (hmem q' cid').1 h with h | ⟨rfl, -⟩
      · exact .inl ⟨cid', h⟩
      · exact .inr (.inl rfl)
    · cases h
    · exact .inr (.inr h)

/-- The server has answered a request in flight. -/
theorem Settling.answer {s : RtState π} {q : Nat} {cid : String} (hq : (q, cid) ∈ s.inFlight)
    (hs : Settling s none) :
    Settling { s with inFlight := s.inFlight.filter fun p => p.1 != q } (some q) := by
  have hmem : ∀ q' cid', (q', cid') ∈ s.inFlight.filter (fun p => p.1 != q) ↔
      (q', cid') ∈ s.inFlight ∧ q' ≠ q := by
    simp
  refine ⟨hs.kept, hs.callbacks, ?_, ?_, ?_, hs.live, hs.endedNone⟩
  · intro k q' he
    by_cases hqq : q' = q
    · exact .inr (.inr (hqq ▸ rfl))
    · rcases hs.covered k q' he with ⟨cid', h⟩ | h | h
      · exact .inl ⟨cid', (hmem q' cid').2 ⟨h, hqq⟩⟩
      · exact .inr (.inl h)
      · cases h
  · intro q' r hr hno hne hl
    refine hs.told q' r hr (fun cid' h => hno cid' ((hmem q' cid').2 ⟨h, ?_⟩)) (by simp) hl
    exact fun hqq => hne (hqq ▸ rfl)
  · intro q' h
    refine hs.untold q' ?_
    rcases h with ⟨cid', h⟩ | h | h
    · exact .inl ⟨cid', ((hmem q' cid').1 h).1⟩
    · obtain rfl := Option.some.inj h
      exact .inl ⟨cid, hq⟩
    · exact .inr (.inr h)

theorem notifications_append (s : RtState π) (q : Nat) (origin : Option Nat) (calls : List (UserCall π))
    (stack : List Frame) :
    notifications { s with
      deliveries := s.deliveries ++ calls.map fun call => (origin, call), stack } q =
      s.notifications q ++ if origin = some q then calls.map fun call => (origin, call) else [] := by
  simp only [notifications, List.filter_append]
  congr 1
  split
  · next h => simp [List.filter_eq_self, h]
  · next h => simp [List.filter_eq_nil_iff, h]

/-- Entry `k` is erased, when every other entry is accounted for. -/
theorem Settling.erase {s : RtState π} {busy : Option Nat} (hs : Settling s busy) (k : Int32)
    (stack : List Frame)
    (hcov : ∀ k' q, s.Entry k' q → k ≠ k' →
      (∃ cid, (q, cid) ∈ s.inFlight) ∨ ∃ f ∈ stack, f.erase = some k')
    (hquiet : ∀ q r, busy = some q → s.requests[q]? = some r → r.listening = false) (b : Bool) :
    Settling ({ s with stack }.finish ⟨some k, b⟩) none := by
  have hent := entry_finish { s with stack } k b
  refine ⟨hs.kept, ?_, ?_, ?_, ?_, hs.live, ?_⟩
  · intro k' ctx r h
    simp only [finish, getElem?_eraseReq] at h
    split at h
    · cases h
    · exact hs.callbacks k' ctx r h
  · intro k' q he
    obtain ⟨he, hne⟩ := (hent k' q).1 he
    rcases hcov k' q he hne with h | h
    · exact .inl h
    · exact .inr (.inl h)
  · intro q r hr hno _ hl
    refine hs.told q r hr hno ?_ hl
    intro h
    rw [hquiet q r h hr] at hl
    cases hl
  · intro q h
    refine hs.untold q ?_
    rcases h with h | h | h
    · exact .inl h
    · cases h
    · exact .inr (.inr h)
  · exact fun c hc k' q he => hs.endedNone c hc k' q ((hent k' q).1 he).1

/-- The busy request is told its fate. -/
theorem Settling.enterHeld {s : RtState π} {k : Int32} {q : Nat} (hi : Inv s)
    (hs : Settling s (some q)) (hh : s.Held k q) {d : Dispatch π} (hd : d.erase = some k)
    (hlen : ∀ r, s.requests[q]? = some r → r.listening = true → d.calls.length = 1) (b : Bool) :
    Settling (s.enter (some q) d b) none := by
  unfold enter
  split
  · next hnil =>
    have hcalls : d.calls = [] := List.isEmpty_iff.1 hnil
    rw [hd]
    refine hs.erase k s.stack ?_ ?_ b
    · intro k' q' he hne
      rcases hs.covered k' q' he with h | h | h
      · exact .inl h
      · exact .inr h
      · obtain rfl := Option.some.inj h
        exact absurd (hi.unique k k' q hh.entry he) hne
    · intro q' r hq hr
      obtain rfl := Option.some.inj hq
      by_contra hl
      have := hlen r hr (by simpa using hl)
      simp [hcalls] at this
  · have hnot := fun q' => notifications_append s q' (some q) d.calls
      (⟨d.erase, b⟩ :: s.stack)
    have hq0 : s.notifications q = [] := hs.untold q (.inr (.inl rfl))
    refine ⟨hs.kept, hs.callbacks, ?_, ?_, ?_, hs.live, hs.endedNone⟩
    · intro k' q' he
      rcases hs.covered k' q' he with h | ⟨f, hf, hk⟩ | h
      · exact .inl h
      · exact .inr (.inl ⟨f, List.mem_cons_of_mem _ hf, hk⟩)
      · obtain rfl := Option.some.inj h
        obtain rfl := hi.unique k k' q hh.entry he
        exact .inr (.inl ⟨_, List.mem_cons_self, hd⟩)
    · intro q' r hr hno _ hl
      rw [hnot q', List.length_append]
      by_cases hqq : q = q'
      · subst hqq
        simp [hq0, hlen r hr hl]
      · simp [hqq, hs.told q' r hr hno (fun h => hqq (Option.some.inj h)) hl]
    · intro q' h
      rw [hnot q']
      have hne : q ≠ q' := by
        rintro rfl
        rcases h with ⟨cid, h⟩ | h | h
        · exact hh.notSent cid h
        · cases h
        · have := hi.known k q hh.entry
          simp only at h
          omega
      have h0 : s.notifications q' = [] := by
        refine hs.untold q' ?_
        rcases h with h | h | h
        · exact .inl h
        · cases h
        · exact .inr (.inr h)
      simp [hne, h0]

/-- A call that concerns no request changes nothing for any of them. -/
theorem Settling.enterNone {s : RtState π} (hs : Settling s none) {d : Dispatch π}
    (hd : d.erase = none) (b : Bool) : Settling (s.enter none d b) none := by
  unfold enter
  split
  · rw [hd]
    exact ⟨hs.kept, hs.callbacks, hs.covered, hs.told, hs.untold, hs.live, hs.endedNone⟩
  · have hnot := fun q => notifications_append s q none d.calls
      (⟨d.erase, b⟩ :: s.stack)
    refine ⟨hs.kept, hs.callbacks, ?_, ?_, ?_, hs.live, hs.endedNone⟩
    · intro k q he
      rcases hs.covered k q he with h | ⟨f, hf, hk⟩ | h
      · exact .inl h
      · exact .inr (.inl ⟨f, List.mem_cons_of_mem _ hf, hk⟩)
      · cases h
    · intro q r hr hno hne hl
      rw [hnot q]
      simpa using hs.told q r hr hno hne hl
    · intro q h
      rw [hnot q]
      simpa using hs.untold q h

/-- A callback has returned, or one that has nothing to erase is over. -/
theorem Settling.pop {s : RtState π} (hs : Settling s none) {f : Frame} {stack : List Frame}
    (hst : s.stack = f :: stack) : Settling ({ s with stack }.finish f) none := by
  have hcov : ∀ k q, s.Entry k q → f.erase ≠ some k →
      (∃ cid, (q, cid) ∈ s.inFlight) ∨ ∃ g ∈ stack, g.erase = some k := by
    intro k q he hne
    rcases hs.covered k q he with h | ⟨g, hg, hk⟩ | h
    · exact .inl h
    · rw [hst] at hg
      rcases List.mem_cons.1 hg with rfl | hg
      · exact absurd hk hne
      · exact .inr ⟨g, hg, hk⟩
    · cases h
  cases hk : f.erase with
  | none =>
    simp only [finish, hk, NRtClient.eraseReq]
    refine ⟨hs.kept, hs.callbacks, ?_, hs.told, hs.untold, hs.live, hs.endedNone⟩
    intro k q he
    rcases hcov k q he (by simp [hk]) with h | h
    · exact .inl h
    · exact .inr (.inl h)
  | some k =>
    have := hs.erase k stack
      (fun k' q he hne => hcov k' q he (by rw [hk]; exact fun h => hne (Option.some.inj h)))
      (by simp) f.disconnects
    rwa [← hk] at this

/-! ## One step -/

/-- A failed request tells its caller when the caller has asked for it. -/
theorem reqInternalError_length {s : RtState π} {k : Int32} {q : Nat} {busy : Option Nat}
    (hs : Settling s busy) (he : s.Entry k q) (e : NRtError) {r : Request}
    (hr : s.requests[q]? = some r) (hl : r.listening = true) :
    (s.client.reqInternalError k e : Dispatch π).calls.length = 1 := by
  obtain ⟨ctx, hctx, rfl⟩ := he
  obtain ⟨-, hec⟩ := hs.callbacks k ctx r hctx hr
  have hlistener := hs.kept r (List.mem_of_getElem? hr)
  simp only [NRtClient.reqInternalError, hctx, hec]
  unfold Request.listening at hl
  cases h : r.errorCallback with
  | true => simp
  | false =>
    rw [h, Bool.false_or] at hl
    simp [hlistener hl]

theorem answerCalls_length_one {s : RtState π} {k : Int32} {ctx : RtRequestContext}
    {busy : Option Nat} (hs : Settling s busy) (hctx : s.client.reqContexts[k]? = some ctx)
    {r : Request} (hr : s.requests[ctx.request]? = some r) (hl : r.listening = true)
    {msg : Envelope π} (hm : (msg.hasError || r.successCallback) = true) :
    (s.client.answerCalls ctx msg).length = 1 := by
  obtain ⟨hsc, hec⟩ := hs.callbacks k ctx r hctx hr
  have hlistener := hs.kept r (List.mem_of_getElem? hr)
  unfold NRtClient.answerCalls
  unfold Request.listening at hl
  rw [hsc, hec]
  cases he : msg.hasError with
  | false => simp_all
  | true =>
    cases h : r.errorCallback with
    | true => simp
    | false =>
      rw [h, Bool.false_or] at hl
      simp [hlistener hl]

/-- A connection with nothing outstanding has no entry. -/
theorem not_outstanding {s : RtState π} {c : Nat} (hs : Settling s none)
    (h : s.outstanding c = false) (k : Int32) (q : Nat) (he : s.Entry k q) :
    s.connOf q ≠ some c := by
  simp only [outstanding, Bool.or_eq_false_iff, List.any_eq_false, beq_iff_eq] at h
  rcases hs.covered k q he with ⟨cid, hq⟩ | ⟨f, hf, hk⟩ | hb
  · exact h.1 (q, cid) hq
  · obtain ⟨ctx, hctx, rfl⟩ := he
    have := h.2 f hf
    simpa [hk, hctx] using this
  · cases hb

/-- The listener is replaced or taken away. -/
theorem Settling.setListener {s : RtState π} (hs : Settling s none) (set : Bool) :
    Settling { s with
      client := { s.client with listener := set }
      requests := if set then s.requests
        else s.requests.map fun q => { q with listenerKept := false } } none := by
  cases set with
  | true =>
    refine ⟨fun _ _ _ => rfl, hs.callbacks, hs.covered, hs.told, hs.untold, hs.live, hs.endedNone⟩
  | false =>
    have hget : ∀ (q : Nat) (r : Request),
        (s.requests.map fun q => { q with listenerKept := false })[q]? = some r →
        ∃ r', s.requests[q]? = some r' ∧ r = { r' with listenerKept := false } := by
      intro q r hr
      rw [List.getElem?_map, Option.map_eq_some_iff] at hr
      obtain ⟨r', hr', rfl⟩ := hr
      exact ⟨r', hr', rfl⟩
    refine ⟨?_, ?_, hs.covered, ?_, ?_, hs.live, ?_⟩
    · intro r hr hk
      obtain ⟨r', -, rfl⟩ := List.mem_map.1 hr
      cases hk
    · intro k ctx r hctx hr
      obtain ⟨r', hr', rfl⟩ := hget _ _ hr
      exact hs.callbacks k ctx r' hctx hr'
    · intro q r hr hno hne hl
      obtain ⟨r', hr', rfl⟩ := hget _ _ hr
      refine hs.told q r' hr' hno hne ?_
      simp only [Request.listening, Bool.or_false] at hl ⊢
      simp [hl]
    · intro q h
      exact hs.untold q (by simpa using h)
    · intro c hc k q he
      have := hs.endedNone c hc k q he
      unfold connOf at this ⊢
      simp only [Bool.false_eq_true, if_false, List.getElem?_map]
      cases hq : s.requests[q]? with
      | none => simp
      | some r => simpa [hq] using this

theorem Settling.step {s s' : RtState π} {a : RtAction π} (hi : Inv s) (hs : Settling s none)
    (hok : s.settles a = true) (h : s.step a = some s') : Settling s' none := by
  obtain ⟨hb, hok⟩ := Bool.and_eq_true_iff.1 hok
  cases a with
  | setListener set =>
    obtain rfl := Option.some.inj h
    exact hs.setListener set
  | request sc ec serializes sends =>
    obtain ⟨hi', hh⟩ := hi.issue sc ec (by simpa [idsBounded] using hb)
    have hs' := hs.issue hi sc ec
    rcases request_cases h with rfl | ⟨e, b, rfl⟩
    · exact hs'.transmit
    · obtain ⟨hd, -⟩ := reqInternalError_spec hh.entry e
      exact hs'.enterHeld hi' hh hd (fun r hr hl => reqInternalError_length hs' hh.entry e hr hl) b
  | sendMatchData serializes sends =>
    obtain rfl := Option.some.inj h
    rw [afterSend_empty]
    exact hs
  | disconnect =>
    obtain rfl := Option.some.inj h
    exact ⟨hs.kept, hs.callbacks, hs.covered, hs.told, hs.untold, hs.live, hs.endedNone⟩
  | dropped =>
    obtain rfl := Option.some.inj h
    exact ⟨hs.kept, hs.callbacks, hs.covered, hs.told, hs.untold,
      fun c hc => ⟨(hs.live c hc).1, by rintro ⟨⟩⟩, hs.endedNone⟩
  | opened =>
    obtain rfl := Option.some.inj h
    have hs' : Settling { s with connected := true, conn := s.conn + 1 } none := by
      refine ⟨hs.kept, hs.callbacks, hs.covered, hs.told, hs.untold, ?_, hs.endedNone⟩
      intro c hc
      have := (hs.live c hc).1
      exact ⟨Nat.le_succ_of_le this, fun _ => by simp only; omega⟩
    exact hs'.enterNone rfl false
  | ended c =>
    simp only [RtState.step] at h
    split at h
    · next hc =>
      obtain rfl := Option.some.inj h
      have hs' : Settling { s with connected := false, ended := c :: s.ended } none := by
        refine ⟨hs.kept, hs.callbacks, hs.covered, hs.told, hs.untold, ?_, ?_⟩
        · intro c' hc'
          rcases List.mem_cons.1 hc' with rfl | hc'
          · exact ⟨hc.2, by rintro ⟨⟩⟩
          · exact ⟨(hs.live c' hc').1, by rintro ⟨⟩⟩
        · intro c' hc'
          rcases List.mem_cons.1 hc' with rfl | hc'
          · exact fun k q he => not_outstanding hs (by simpa using hok) k q he
          · exact hs.endedNone c' hc'
      exact hs'.enterNone rfl false
    · cases h
  | transportError description =>
    obtain rfl := Option.some.inj h
    exact hs.enterNone rfl false
  | answer q msg =>
    obtain ⟨k, ctx, hmem, hh, hctx, rfl, rfl⟩ := answer_cases hi h
    have hs' := hs.answer hmem
    refine hs'.enterHeld (hi.answer hmem).1 hh rfl (fun r hr hl => ?_) false
    refine answerCalls_length_one hs' hctx hr hl ?_
    have he : ({ msg with cid := toString k } : Envelope π).hasError = msg.hasError := rfl
    simp only at hr
    rw [he]
    simpa [hr] using hok
  | push parsed =>
    rcases push_cases h with rfl | ⟨d, herase, -, rfl⟩
    · exact hs
    · exact hs.enterNone herase false
  | callbackReturns =>
    simp only [RtState.step] at h
    split at h
    · next f stack hst =>
      obtain rfl := Option.some.inj h
      exact hs.pop hst
    · cases h
  | callbackThrows =>
    simp only [RtState.step] at h
    split at h
    · next f stack hst =>
      obtain rfl := Option.some.inj h
      have hf : f.erase = none := by simpa [hst] using hok
      have := hs.pop hst
      simp only [finish, hf, NRtClient.eraseReq] at this
      exact ⟨this.kept, this.callbacks, this.covered, this.told, this.untold, this.live,
        this.endedNone⟩
    · cases h

/-- **Settlement.**  In every run in which nothing is outstanding on a connection
that ends, every request of an ended connection has been told its fate once, and
the table has no entry of it. -/
theorem connection_settled {s : RtState π} {c : Nat}
    (h : Reach step (fun s a => settles s a = true) {} s) (hc : c ∈ s.ended) :
    ConnectionSettled s c := by
  have hinv : Inv s ∧ Settling s none := by
    refine h.invariant (P := fun s => Inv s ∧ Settling s none) ⟨inv_init, settling_init⟩ ?_
    rintro s a s' ⟨hi, hs⟩ hok hstep
    exact ⟨hi.step (Bool.and_eq_true_iff.1 hok).1 hstep, hs.step hi hok hstep⟩
  obtain ⟨hi, hs⟩ := hinv
  refine ⟨?_, hs.endedNone c hc⟩
  intro q r hr hconn hl
  have hno : ∀ cid, (q, cid) ∉ s.inFlight := by
    intro cid hq
    obtain ⟨k, -, he, -⟩ := hi.sent q cid hq
    refine hs.endedNone c hc k q he ?_
    simp [connOf, hr, hconn]
  obtain ⟨⟨origin, call⟩, hcall⟩ := List.length_eq_one_iff.1 (hs.told q r hr hno (by simp) hl)
  have hmem : (origin, call) ∈ s.notifications q := hcall ▸ List.mem_singleton_self _
  obtain ⟨hmem, ho⟩ := List.mem_filter.1 hmem
  obtain rfl : origin = some q := by simpa using ho
  exact ⟨call, hcall, hi.toOne q call hmem⟩

/-- A request answered before its connection ends. -/
def settledRun : List (RtAction Unit) :=
  [.opened, .request true true true true, .answer 0 { messageCase := .rpc, payload := () },
    .callbackReturns, .ended 1]

theorem connection_settled_settledRun :
    ∃ s : RtState Unit, exec step (fun s a => settles s a = true) {} settledRun = some s ∧
      ConnectionSettled s 1 := by
  have h : (exec step (fun s a => settles s a = true) {} settledRun).isSome = true := by decide
  exact ⟨_, (Option.some_get h).symm, connection_settled (Reach.get_exec settledRun h)
    (List.mem_singleton_self 1)⟩

/-- A request whose connection ends before its answer; the listener hears of the end. -/
def lostRun : List (RtAction Unit) :=
  [.setListener true, .opened, .callbackReturns, .request true true true true, .ended 1]

/-- The connection can end with a request that nobody will ever hear of again. -/
theorem connection_not_settled :
    ∃ s : RtState Unit, Reach step (fun s a => idsBounded s a = true) {} s ∧ 1 ∈ s.ended ∧
      ¬ ConnectionSettled s 1 := by
  have h : (exec step (fun s a => idsBounded s a = true) {} lostRun).isSome = true := by decide
  refine ⟨_, Reach.get_exec lostRun h, List.mem_singleton_self 1, fun hset => ?_⟩
  obtain ⟨call, hcall, -⟩ := hset.told 0 ⟨some 1, true, true, true⟩ rfl rfl rfl
  cases hcall

end RtState

end NakamaCpp.Realtime
