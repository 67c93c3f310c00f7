import NakamaCpp.CApi.DefaultError

/-!
# Sending

The way of an operation of src/realtime/NRtClient.cpp from its call to the transport: the
envelope it makes, the context it may create, and what happens when `send` fails.

    (the envelope keeps the presences given to `sendMatchData`
      ↔  one of them has a user id and a session id)                       (keepsRecipients_iff)
    the operation cannot be sent  →
      (its failure is told once and leaves no trace
        ↔  it has a context, its cid is free, and the transport is silent)        (failsOnce_iff)
-/

namespace NakamaCpp.Realtime

open CppStd Std Transition CApi

/-! ## The recipients of match data -/

/-- `assign(NUserPresence&, const UserPresence&)` of src/DataHelper.cpp. -/
def assignPresence (data : UserPresence) : NUserPresence where
  userId := data.userId
  sessionId := data.sessionId
  username := data.username
  persistence := data.persistence
  status := data.status.getD ""

/-- The presence names a user and a session. -/
def Identified (presence : NUserPresence) : Prop := presence.userId ≠ "" ∧ presence.sessionId ≠ ""

instance (presence : NUserPresence) : Decidable (Identified presence) :=
  inferInstanceAs (Decidable (_ ∧ _))

/-- The envelope is match data for the identified presences of the list, all fields kept and in
order, and for at least one: without presences the server sends it to the whole match. -/
def KeepsRecipients (matchId : String) (opCode : Int64) (data : NBytes)
    (presences : List NUserPresence) (msg : RtMessage) : Prop :=
  ∃ sent, msg = .matchDataSend matchId opCode data sent ∧
    sent.map assignPresence = presences.filter (fun presence => decide (Identified presence)) ∧
    sent ≠ []

theorem presenceMessage_eq_none_iff {presence : NUserPresence} :
    presenceMessage presence = none ↔ ¬ Identified presence := by
  unfold presenceMessage Identified
  by_cases hu : presence.userId = ""
  · simp [hu]
  · by_cases hs : presence.sessionId = ""
    · simp [hs]
    · simp [hu, hs, String.isEmpty_iff]

/-- What is read back from a presence that is sent is the presence given. -/
theorem assignPresence_of_presenceMessage {presence : NUserPresence} {data : UserPresence}
    (h : presenceMessage presence = some data) : assignPresence data = presence := by
  unfold presenceMessage at h
  split at h
  · cases h
  · split at h
    · cases h
    · obtain rfl := Option.some.inj h
      have hstatus : (if presence.status.isEmpty then none else some presence.status).getD "" =
          presence.status := by
        by_cases he : presence.status = ""
        · simp [he]
        · simp [he, String.isEmpty_iff]
      unfold assignPresence
      rw [hstatus]

/-- The loop of `sendMatchData` keeps the identified presences, in order. -/
theorem map_assignPresence_filterMap (presences : List NUserPresence) :
    (presences.filterMap presenceMessage).map assignPresence =
      presences.filter fun presence => decide (Identified presence) := by
  induction presences with
  | nil => rfl
  | cons presence rest ih =>
    cases h : presenceMessage presence with
    | none =>
      have hno : ¬ Identified presence := presenceMessage_eq_none_iff.1 h
      rw [List.filterMap_cons_none h, ih, List.filter_cons_of_neg (by simpa using hno)]
    | some data =>
      have hid : Identified presence := by
        by_contra hno
        rw [presenceMessage_eq_none_iff.2 hno] at h
        cases h
      rw [List.filterMap_cons_some h, List.map_cons, ih, assignPresence_of_presenceMessage h,
        List.filter_cons_of_pos (by simpa using hid)]

/-- **Recipients.**  Match data goes to the presences it is meant for, and not to the whole
match, exactly when one of them is identified. -/
theorem keepsRecipients_iff (matchId : String) (opCode : Int64) (data : NBytes)
    (presences : List NUserPresence) :
    KeepsRecipients matchId opCode data presences
        (RtOp.sendMatchData matchId opCode data presences).message ↔
      ∃ presence ∈ presences, Identified presence := by
  have hkept := map_assignPresence_filterMap presences
  constructor
  · rintro ⟨sent, hmsg, hmap, hne⟩
    have hpos : presences.filter (fun presence => decide (Identified presence)) ≠ [] := by
      rw [← hmap]
      intro h
      exact hne (List.map_eq_nil_iff.1 h)
    obtain ⟨presence, hp⟩ := List.exists_mem_of_ne_nil _ hpos
    rw [List.mem_filter] at hp
    exact ⟨presence, hp.1, of_decide_eq_true hp.2⟩
  · rintro ⟨presence, hp, hid⟩
    refine ⟨presences.filterMap presenceMessage, rfl, hkept, ?_⟩
    intro hnil
    rw [hnil, List.map_nil] at hkept
    have hmem : presence ∈ presences.filter fun presence => decide (Identified presence) :=
      List.mem_filter.2 ⟨hp, decide_eq_true hid⟩
    rw [← hkept] at hmem
    cases hmem

/-- A presence without user id. -/
def presenceOfNobody : NUserPresence := ⟨"", "session", "name", false, ""⟩

/-- Match data for a presence without user id goes to the whole match. -/
theorem recipients_widened :
    (RtOp.sendMatchData "m" 1 ByteArray.empty [presenceOfNobody]).message =
        .matchDataSend "m" 1 ByteArray.empty [] ∧
      ¬ KeepsRecipients "m" 1 ByteArray.empty [presenceOfNobody]
        (RtOp.sendMatchData "m" 1 ByteArray.empty [presenceOfNobody]).message := by
  refine ⟨rfl, ?_⟩
  rintro ⟨sent, hmsg, -, hne⟩
  have hnil : RtMessage.matchDataSend "m" 1 ByteArray.empty [] =
      .matchDataSend "m" 1 ByteArray.empty sent := hmsg
  injection hnil with _ _ _ hsent
  exact hne hsent.symm

/-! ## Failures of `send` -/

/-- What `send` uses of the protocol and of the transport.  The transport's `send` returns
whether it took the bytes, and hands errors to its error callback, which a later `tick` calls. -/
structure Link where
  isConnected : Bool
  serialize : String → RtMessage → Option NBytes
  send : NBytes → Bool × List String

namespace Link

/-- The transport did not get the message, or did not take it. -/
def Fails (link : Link) (cid : String) (msg : RtMessage) : Prop :=
  link.isConnected = false ∨ link.serialize cid msg = none ∨
    ∃ bytes, link.serialize cid msg = some bytes ∧ (link.send bytes).1 = false

/-- What the transport hands to its error callback. -/
def reports (link : Link) (cid : String) (msg : RtMessage) : List String :=
  if link.isConnected then ((link.serialize cid msg).map fun bytes => (link.send bytes).2).getD []
  else []

end Link

/-- `NWebsocketCppRest::send`, where `start` is the text of the exception that starting the task
throws, if it does. -/
def webSocketSend (isConnected : Bool) (start : NBytes → Option String) (data : NBytes) :
    Bool × List String :=
  if isConnected then
    match start data with
    | none => (true, [])
    | some what => (false, ["[NWebsocketCppRest::send] exception: " ++ what])
  else (false, [])

/-- What an operation has done when it returns. -/
structure Performed (π : Type) where
  calls : List (UserCall π)
  client : NRtClient
  /-- errors that a later `tick` delivers -/
  reports : List String

namespace NRtClient

variable {π : Type}

/-- The client when `send` begins, and the cid of the envelope. -/
def beforeSend (c : NRtClient) (op : RtOp) (ctx : RtRequestContext) : NRtClient × String :=
  if op.hasContext then ((c.createReqContext ctx).1, toString (c.createReqContext ctx).2)
  else (c, "")

/-- An operation, with what the user's callbacks do to the client they are called from.  They
return normally. -/
def perform (c : NRtClient) (link : Link) (callback : UserCall π → NRtClient → NRtClient)
    (op : RtOp) (ctx : RtRequestContext) : Except StdError (Performed π) := do
  let (c, cid) := c.beforeSend op ctx
  let bytes := link.serialize cid op.message
  let reports := link.reports cid op.message
  match ← send link.isConnected bytes.isSome (bytes.any fun b => (link.send b).1) cid with
  | none => return { calls := [], client := c, reports }
  | some failure =>
    let d := c.reqInternalError failure.cid failure.error
    return {
      calls := d.calls
      client := (d.calls.foldl (fun c call => callback call c) c).eraseReq d.erase
      reports }

/-- The calls that a `tick` makes for errors of the transport. -/
def reportCalls (c : NRtClient) (connected : Bool) (reports : List String) : List (UserCall π) :=
  reports.flatMap fun description => (c.onTransportError connected description).calls

/-- The operation has returned, its failure is told once, by the operation or at the `tick` that
follows, and the table is as it was. -/
def FailsOnce (c : NRtClient) (op : RtOp) (ctx : RtRequestContext) (atTick : NRtClient)
    (connected : Bool) (result : Except StdError (Performed π)) : Prop :=
  ∃ p e, result = .ok p ∧
    p.calls ++ atTick.reportCalls connected p.reports =
      (if op.hasContext && ctx.errorCallback then [.error ctx.request e]
        else if c.listener then [.listener (.onError e)]
        else []) ∧
    p.client.reqContexts = c.reqContexts

/-- The cid that the next context gets is in no other entry. -/
def CidFree (c : NRtClient) : Prop := c.reqContexts[c.resetCid.nextCid]? = none

/-! ## Lemmas -/

/-- A context that was under the cid stays there. -/
theorem getElem?_createReqContext_self (c : NRtClient) (ctx : RtRequestContext) :
    (c.createReqContext ctx).1.reqContexts[c.resetCid.nextCid]? =
      some (c.reqContexts[c.resetCid.nextCid]?.getD ctx) := by
  simp only [createReqContext, resetCid_reqContexts, ExtTreeMap.getElem?_insertIfNew]
  cases h : c.reqContexts[c.resetCid.nextCid]? with
  | none =>
    have hno : c.resetCid.nextCid ∉ c.reqContexts := by
      rw [ExtTreeMap.mem_iff_isSome_getElem?, h]
      simp
    simp [hno]
  | some old =>
    have hmem : c.resetCid.nextCid ∈ c.reqContexts := by
      rw [ExtTreeMap.mem_iff_isSome_getElem?, h]
      rfl
    simp [hmem]

theorem erase_createReqContext (c : NRtClient) (ctx : RtRequestContext) :
    (c.createReqContext ctx).1.reqContexts.erase c.resetCid.nextCid =
      c.reqContexts.erase c.resetCid.nextCid := by
  apply ExtTreeMap.ext_getElem?
  intro k
  simp only [createReqContext, resetCid_reqContexts, ExtTreeMap.getElem?_erase,
    ExtTreeMap.getElem?_insertIfNew]
  by_cases hk : compare c.resetCid.nextCid k = .eq
  · rw [if_pos hk, if_pos hk]
  · rw [if_neg hk, if_neg hk, if_neg fun h => hk h.1]

theorem erase_eq_self_iff (c : NRtClient) (k : Int32) :
    c.reqContexts.erase k = c.reqContexts ↔ c.reqContexts[k]? = none := by
  constructor
  · intro h
    rw [← h]
    exact ExtTreeMap.getElem?_erase_self
  · intro h
    apply ExtTreeMap.ext_getElem?
    intro k'
    rw [ExtTreeMap.getElem?_erase]
    by_cases hk : compare k k' = .eq
    · rw [if_pos hk, ← Std.LawfulEqCmp.eq_of_compare hk, h]
    · rw [if_neg hk]

/-- What `reqInternalError` calls for the request of `ctx`. -/
def failureCalls (c : NRtClient) (ctx : RtRequestContext) (e : NRtError) : List (UserCall π) :=
  if ctx.errorCallback then [.error ctx.request e]
  else if c.listener then [.listener (.onError e)]
  else []

theorem reqInternalError_some {c : NRtClient} {k : Int32} {ctx : RtRequestContext}
    (h : c.reqContexts[k]? = some ctx) (e : NRtError) :
    (c.reqInternalError k e : Dispatch π) = { calls := c.failureCalls ctx e, erase := some k } := by
  unfold reqInternalError
  rw [h]
  rfl

theorem length_failureCalls (c : NRtClient) (ctx : RtRequestContext) (e e' : NRtError) :
    (c.failureCalls ctx e : List (UserCall π)).length =
      (c.failureCalls ctx e' : List (UserCall π)).length := by
  unfold failureCalls
  split_ifs <;> rfl

theorem reportCalls_eq_nil_iff {c : NRtClient} {connected : Bool} {reports : List String} :
    (c.reportCalls connected reports : List (UserCall π)) = [] ↔
      (c.listener = true → reports = []) := by
  unfold reportCalls onTransportError
  by_cases hl : c.listener = true
  · cases reports <;> simp [hl]
  · simp [hl]

theorem foldl_reqContexts {callback : UserCall π → NRtClient → NRtClient}
    (hcallback : ∀ call c, (callback call c).reqContexts = c.reqContexts)
    (calls : List (UserCall π)) (c : NRtClient) :
    (calls.foldl (fun c call => callback call c) c).reqContexts = c.reqContexts := by
  induction calls generalizing c with
  | nil => rfl
  | cons call rest ih => rw [List.foldl_cons, ih, hcallback]

/-- `send` of a message that fails: `std::stoi` reads the cid back. -/
theorem send_of_fails {link : Link} {msg : RtMessage} {k : Int32}
    (h : link.Fails (toString k) msg) :
    ∃ e b, send link.isConnected (link.serialize (toString k) msg).isSome
      ((link.serialize (toString k) msg).any fun b => (link.send b).1) (toString k) =
        .ok (some ⟨k, e, b⟩) := by
  unfold send
  rw [stoi_toString]
  rcases h with hno | hno | ⟨bytes, hbytes, hno⟩
  · exact ⟨_, _, by rw [hno]; rfl⟩
  · rw [hno]
    cases link.isConnected <;> exact ⟨_, _, rfl⟩
  · rw [hbytes, Option.any_some, hno]
    cases link.isConnected <;> exact ⟨_, _, rfl⟩

/-- Without a cid a failure throws out of the operation. -/
theorem send_empty_of_fails {link : Link} {msg : RtMessage} (h : link.Fails "" msg) :
    send link.isConnected (link.serialize "" msg).isSome
      ((link.serialize "" msg).any fun b => (link.send b).1) "" = .error .invalidArgument := by
  have hs : stoi "" = .error .invalidArgument := by decide
  unfold send
  rw [hs]
  rcases h with hno | hno | ⟨bytes, hbytes, hno⟩
  · rw [hno]
    rfl
  · rw [hno]
    cases link.isConnected <;> rfl
  · rw [hbytes, Option.any_some, hno]
    cases link.isConnected <;> rfl

/-- What a request has done when it could not be sent. -/
theorem perform_of_fails {c : NRtClient} {link : Link}
    {callback : UserCall π → NRtClient → NRtClient} {op : RtOp} {ctx : RtRequestContext}
    (hcallback : ∀ call c, (callback call c).reqContexts = c.reqContexts)
    (hop : op.hasContext = true) (h : link.Fails (c.beforeSend op ctx).2 op.message) :
    ∃ p e, c.perform link callback op ctx = .ok p ∧
      p.calls = c.failureCalls (c.reqContexts[c.resetCid.nextCid]?.getD ctx) e ∧
      p.client.reqContexts = c.reqContexts.erase c.resetCid.nextCid ∧
      p.reports = link.reports (c.beforeSend op ctx).2 op.message := by
  have hbefore : c.beforeSend op ctx =
      ((c.createReqContext ctx).1, toString c.resetCid.nextCid) := by
    unfold beforeSend
    rw [if_pos hop]
    rfl
  rw [hbefore] at h ⊢
  obtain ⟨e, b, hsend⟩ := send_of_fails h
  have hlistener : (c.createReqContext ctx).1.listener = c.listener := resetCid_listener c
  let calls : List (UserCall π) :=
    (c.createReqContext ctx).1.failureCalls (c.reqContexts[c.resetCid.nextCid]?.getD ctx) e
  let client := (calls.foldl (fun c call => callback call c) (c.createReqContext ctx).1).eraseReq
    (some c.resetCid.nextCid)
  refine ⟨⟨calls, client, link.reports (toString c.resetCid.nextCid) op.message⟩, e, ?_, ?_, ?_, rfl⟩
  · simp only [perform, hbefore, hsend, bind, Except.bind, pure, Except.pure,
      reqInternalError_some (getElem?_createReqContext_self c ctx) e]
    rfl
  · show (c.createReqContext ctx).1.failureCalls _ e = c.failureCalls _ e
    simp only [failureCalls, hlistener]
  · show ExtTreeMap.erase _ c.resetCid.nextCid = _
    rw [foldl_reqContexts hcallback, erase_createReqContext]

theorem perform_sendMatchData {c : NRtClient} {link : Link}
    {callback : UserCall π → NRtClient → NRtClient} {op : RtOp} {ctx : RtRequestContext}
    (hop : op.hasContext = false) (h : link.Fails (c.beforeSend op ctx).2 op.message) :
    c.perform link callback op ctx = .error .invalidArgument := by
  have hbefore : c.beforeSend op ctx = (c, "") := by
    unfold beforeSend
    rw [hop]
    rfl
  rw [hbefore] at h
  simp only [perform, hbefore, send_empty_of_fails h, bind, Except.bind]

/-- **One report, no trace.**  A failure to send is told once and leaves the table as it was
exactly for an operation with a context, under a free cid, when no error of the transport's own
reaches the listener. -/
theorem failsOnce_iff (c : NRtClient) (link : Link) (callback : UserCall π → NRtClient → NRtClient)
    (op : RtOp) (ctx : RtRequestContext) (atTick : NRtClient) (connected : Bool)
    (hcallback : ∀ call c, (callback call c).reqContexts = c.reqContexts)
    (hfails : link.Fails (c.beforeSend op ctx).2 op.message) :
    c.FailsOnce op ctx atTick connected (c.perform link callback op ctx) ↔
      op.hasContext = true ∧ c.CidFree ∧
      (atTick.listener = true → link.reports (c.beforeSend op ctx).2 op.message = []) := by
  cases hop : op.hasContext with
  | false =>
    rw [perform_sendMatchData hop hfails]
    apply iff_of_false
    · rintro ⟨p, e, hp, -⟩
      cases hp
    · rintro ⟨hno, -⟩
      cases hno
  | true =>
    obtain ⟨p, e, hp, hcalls, htable, hreports⟩ := perform_of_fails hcallback hop hfails
    have hreported : (atTick.reportCalls connected p.reports : List (UserCall π)) = [] ↔
        (atTick.listener = true → link.reports (c.beforeSend op ctx).2 op.message = []) := by
      rw [hreports]
      exact reportCalls_eq_nil_iff
    rw [hp, ← hreported]
    constructor
    · rintro ⟨p', e', hp', htold, hkept⟩
      obtain rfl := Except.ok.inj hp'
      have hfree : c.CidFree := by
        rw [htable] at hkept
        exact (erase_eq_self_iff c _).1 hkept
      refine ⟨rfl, hfree, ?_⟩
      -- the operation has told it, so the `tick` tells nothing
      rw [hcalls, hfree, hop] at htold
      have hlen := congrArg List.length htold
      have hsame := length_failureCalls (π := π) c ctx e e'
      rw [List.length_append] at hlen
      apply List.length_eq_zero_iff.1
      unfold failureCalls at hlen hsame
      simp only [Option.getD_none, Bool.true_and] at hlen
      omega
    · rintro ⟨-, hfree, hsilent⟩
      refine ⟨p, e, rfl, ?_, ?_⟩
      · rw [hsilent, hcalls, hfree, hop, List.append_nil]
        rfl
      · rw [htable]
        exact (erase_eq_self_iff c _).2 hfree

/-- A socket that is not connected. -/
def offline : Link where
  isConnected := false
  serialize := fun _ _ => some ByteArray.empty
  send := webSocketSend false fun _ => none

theorem failsOnce_iff_offline :
    ({} : NRtClient).FailsOnce .createMatch ⟨0, true, true⟩ { listener := true } false
      (({} : NRtClient).perform offline (fun _ c => c) .createMatch ⟨0, true, true⟩ :
        Except StdError (Performed Unit)) := by
  refine (failsOnce_iff {} offline (fun _ c => c) .createMatch ⟨0, true, true⟩ { listener := true }
    false (fun _ _ => rfl) (.inl rfl)).2 ⟨rfl, ?_, fun _ => rfl⟩
  exact ExtTreeMap.getElem?_empty

/-- `sendMatchData` without a connection throws. -/
theorem sendMatchData_throws :
    ({ listener := true } : NRtClient).perform offline (fun _ c => c)
        (.sendMatchData "m" 1 ByteArray.empty []) ⟨0, false, false⟩ =
      (.error .invalidArgument : Except StdError (Performed Unit)) ∧
    ¬ ({ listener := true } : NRtClient).FailsOnce (.sendMatchData "m" 1 ByteArray.empty [])
      ⟨0, false, false⟩ { listener := true } false
      (({ listener := true } : NRtClient).perform offline (fun _ c => c)
        (.sendMatchData "m" 1 ByteArray.empty []) ⟨0, false, false⟩ :
          Except StdError (Performed Unit)) := by
  have hthrows : ({ listener := true } : NRtClient).perform offline (fun _ c => c)
      (.sendMatchData "m" 1 ByteArray.empty []) ⟨0, false, false⟩ =
        (.error .invalidArgument : Except StdError (Performed Unit)) :=
    perform_sendMatchData rfl (.inl rfl)
  refine ⟨hthrows, ?_⟩
  rw [hthrows]
  rintro ⟨p, e, hp, -⟩
  cases hp

end NRtClient

/-- In a run with bounded ids the next cid is free. -/
theorem RtState.cidFree_of_reach {π : Type} {s : RtState π}
    (h : Reach RtState.step (fun s a => s.idsBounded a = true) {} s) : s.client.CidFree :=
  reqContexts_none_of_fresh (Reach.inv h)

end NakamaCpp.Realtime
