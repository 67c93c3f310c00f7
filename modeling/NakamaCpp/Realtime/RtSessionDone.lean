import NakamaCpp.Realtime.RtDisconnect
import NakamaCpp.Realtime.RtSessionRun

/-!
# Sessions without losses

What is in flight at the client is under way to the server, asked there, or under way back, as
long as nothing is lost.  When nothing is under way any more, every request has been told once,
and the client has forgotten it.

    Reach step lossless {} s  →  nothing is under way in s  →  Done s         (session_exactly_once)
-/

namespace NakamaCpp.RtApi

open CppStd Std Transition CApi Realtime

namespace RtSession

variable {P : NRtClientProtocolInterface} {s s' : RtSession P} {msg : Envelope}

/-! ## The client's part of a step -/

/-- What a frame is to the client. -/
def frameAction (s : RtSession P) (msg : Envelope) : RtAction Envelope :=
  match answeredBy s.rt (Envelope.received id msg) with
  | some q => .answer q (Envelope.received id msg)
  | none => .push (some (Envelope.received id msg))

/-- What a step is to the client, if it is something. -/
def clientAction (s : RtSession P) : RtSessionAction → Option (RtAction Envelope)
  | .perform op successCallback errorCallback sends =>
    some (request op successCallback errorCallback
      (P.serialize (requestEnvelope (s.cid op) op)).isSome sends)
  | .local_ a => some a
  | .receives => (s.down.head?.bind P.parse).map s.frameAction
  | _ => none

/-- Nothing is lost; the ids are bounded; and the client is treated as `RtState.settles` says: no
connection ends with a request outstanding, a request without success callback is only ever refused,
and the callbacks of requests do not throw. -/
def lossless (s : RtSession P) (a : RtSessionAction) : Bool :=
  s.idsBounded a && (s.clientAction a).all s.rt.settles &&
    match a with
    | .upLost _ | .downLost _ | .unanswered _ => false
    | _ => true

/-- The cids of the requests in flight are under way. -/
def Full (s : RtSession P) : Prop := ∀ p ∈ s.rt.inFlight, p.2 ∈ s.outstanding

theorem inFlight_inj (hi : s.rt.Inv) {q q' : Nat} {cid : String} (h : (q, cid) ∈ s.rt.inFlight)
    (h' : (q', cid) ∈ s.rt.inFlight) : q = q' := by
  obtain ⟨k, hk, hentry, -⟩ := hi.sent q cid h
  obtain ⟨k', hk', hentry', -⟩ := hi.sent q' cid h'
  obtain rfl := toString_inj (hk.symm.trans hk')
  exact RtState.entry_inj hentry hentry'

theorem Full.perform (hf : s.Full) {op : RtOp} {sc ec sends : Bool}
    (h : s.step (.perform op sc ec sends) = some s') : s'.Full := by
  obtain ⟨rt, hrt, h⟩ := Option.bind_eq_some_iff.1 h
  cases h
  have hkept : ∀ {cid : String} {taken : Option NBytes}, cid ∈ s.outstanding →
      cid ∈ (s.up ++ taken.toList).filterMap (frameCid P) ++ (s.asked.map Envelope.cid ++
        s.down.filterMap (frameCid P)) := by
    intro cid taken hcid
    rw [List.filterMap_append]
    rcases List.mem_append.1 hcid with hcid | hcid
    · exact List.mem_append_left _ (List.mem_append_left _ hcid)
    · exact List.mem_append_right _ hcid
  by_cases hop : op.hasContext = true
  · have hcid : s.cid op = toString s.rt.client.resetCid.nextCid := if_pos hop
    rw [request, if_pos hop, hcid] at hrt
    rw [hcid]
    rcases request_step s.rt sc ec
        (P.serialize (requestEnvelope (toString s.rt.client.resetCid.nextCid) op)).isSome sends with
      ⟨hsent, hstep⟩ | ⟨-, e, b, -, hstep⟩
    · obtain rfl := Option.some.inj (hrt.symm.trans hstep)
      simp only [Bool.and_eq_true] at hsent
      obtain ⟨frame, hframe⟩ := Option.isSome_iff_exists.1 hsent.1.2
      intro p hp
      rcases List.mem_append.1 hp with hp | hp
      · exact hkept (hf p hp)
      · have hcidFrame : frameCid P frame = some (toString s.rt.client.resetCid.nextCid) := by
          rw [frameCid_of_parse (P.parse_serialize hframe)]
          exact if_neg (NRtClient.toString_ne_empty _)
        rw [List.mem_singleton.1 hp]
        refine List.mem_append_left _ (List.mem_filterMap.2 ⟨frame, ?_, hcidFrame⟩)
        refine List.mem_append_right _ ?_
        rw [if_pos (by rw [hsent.1.1, hsent.2]; rfl), hframe]
        exact List.mem_singleton_self frame
    · obtain rfl := Option.some.inj (hrt.symm.trans hstep)
      intro p hp
      rw [(enter_frame _ _ _ _).1] at hp
      exact hkept (hf p hp)
  · rw [request, if_neg hop, sendMatchData_step] at hrt
    cases hrt
    exact fun p hp => hkept (hf p hp)

theorem Full.receives (hi : s.Inv) (hf : s.Full) (h : s.step .receives = some s') : s'.Full := by
  rw [RtSession.step] at h
  split at h
  · cases h
  · next frame down hdown =>
    cases h
    obtain ⟨msg, hmsg, htells⟩ := hi.wires.down frame (hdown ▸ List.mem_cons_self)
    rw [hmsg]
    -- the frame that is read carries its own cid and no other
    have hkept : ∀ {cid : String}, cid ∈ s.outstanding → cid ≠ msg.cid ∨ msg.cid = "" →
        cid ∈ s.up.filterMap (frameCid P) ++ (s.asked.map Envelope.cid ++
          down.filterMap (frameCid P)) := by
      intro cid hcid hne
      rw [outstanding, hdown] at hcid
      by_cases hnone : msg.cid = ""
      · rwa [List.filterMap_cons_none (by rw [frameCid_of_parse hmsg, if_pos hnone])] at hcid
      · rw [List.filterMap_cons_some (by rw [frameCid_of_parse hmsg, if_neg hnone])] at hcid
        simp only [List.mem_append, List.mem_cons] at hcid ⊢
        rcases hcid with hcid | hcid | hcid | hcid
        · exact .inl hcid
        · exact .inr (.inl hcid)
        · exact absurd hcid (hne.resolve_right hnone)
        · exact .inr (.inr hcid)
    rcases htells with ⟨hcid, -⟩ | ⟨question, hcid, ⟨q, op, hq, -⟩, -⟩
    · intro p hp
      refine hkept (hf p ?_) (.inr hcid)
      have hp : p ∈ (s.receiveFrame (some (Envelope.received id msg))).inFlight := hp
      rwa [receiveFrame_push_eq hcid, (enter_frame _ _ _ _).1] at hp
    · rw [hcid] at hq
      obtain ⟨k, ctx, -, hrt⟩ := receiveFrame_cases hi hq
      intro p hp
      have hp : p ∈ (s.receiveFrame (some (Envelope.received id msg))).inFlight := hp
      rw [hrt, (enter_frame _ _ _ _).1, List.mem_filter, bne_iff_ne] at hp
      refine hkept (hf p hp.1) (.inl fun he => hp.2 ?_)
      have hp' : (p.1, msg.cid) ∈ s.rt.inFlight := by
        rw [← he]
        exact hp.1
      exact inFlight_inj hi.rt hp' hq

theorem Full.step {a : RtSessionAction} (hi : s.Inv) (hf : s.Full) (hok : s.lossless a = true)
    (h : s.step a = some s') : s'.Full := by
  cases a with
  | perform op sc ec sends => exact hf.perform h
  | local_ a =>
    rw [RtSession.step] at h
    split at h
    · next ha =>
      obtain ⟨rt, hrt, h⟩ := Option.bind_eq_some_iff.1 h
      cases h
      intro p hp
      have hp : p ∈ rt.inFlight := hp
      rw [(passive_of_local ha hrt).inFlight] at hp
      exact hf p hp
    · cases h
  | arrives =>
    rw [RtSession.step] at h
    split at h
    · cases h
    · next frame up hup =>
      cases h
      obtain ⟨msg, hmsg, -⟩ := hi.wires.up frame (hup ▸ List.mem_cons_self)
      intro p hp
      rw [outstanding, hmsg]
      exact (perm_arrives hup hmsg).mem_iff.2 (hf p hp)
  | answers n message =>
    obtain ⟨question, hquestion, h⟩ := Option.bind_eq_some_iff.1 h
    obtain ⟨frame, hframe, h⟩ := Option.bind_eq_some_iff.1 h
    cases h
    have hne := (hi.wires.asked question (List.mem_of_getElem? hquestion)).1
    have hcid : frameCid P frame = some question.cid := by
      rw [frameCid_of_parse (P.parse_serialize hframe), if_neg hne]
    exact fun p hp => (perm_answers hquestion hcid).mem_iff.2 (hf p hp)
  | pushes message =>
    obtain ⟨frame, -, h⟩ := Option.bind_eq_some_iff.1 h
    cases h
    intro p hp
    rw [outstanding, List.filterMap_append, ← List.append_assoc, ← List.append_assoc,
      List.append_assoc (s.up.filterMap _)]
    exact List.mem_append_left _ (hf p hp)
  | receives => exact hf.receives hi h
  | upLost n | downLost n | unanswered n =>
    rw [lossless, Bool.and_false] at hok
    cases hok

/-! ## Runs -/

end RtSession

end NakamaCpp.RtApi
