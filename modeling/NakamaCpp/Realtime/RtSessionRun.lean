import NakamaCpp.Realtime.RtSession

/-!
# Runs of the client and a server

Over any protocol that reads what it writes: what is under way belongs to a request in flight or is
a push; both ends read in order what the other has sent; a call into user code has its cause.  Every
step keeps this.

    Reach step idsBounded {} s  →  EndToEnd s                         (session_end_to_end)
-/

namespace NakamaCpp.RtApi

open CppStd Std Transition CApi Realtime

/-! ## Invariant -/

variable {P : NRtClientProtocolInterface}

/-- The cid of a frame, if it has one. -/
def frameCid (P : NRtClientProtocolInterface) (frame : NBytes) : Option String :=
  (P.parse frame).bind fun msg => if msg.cid = "" then none else some msg.cid

theorem frameCid_of_parse {frame : NBytes} {msg : Envelope} (h : P.parse frame = some msg) :
    frameCid P frame = if msg.cid = "" then none else some msg.cid := by
  rw [frameCid, h, Option.bind_some]

namespace RtSession

/-- The cids of questions and answers that are under way. -/
def outstanding (s : RtSession P) : List String :=
  s.up.filterMap (frameCid P) ++ (s.asked.map Envelope.cid ++ s.down.filterMap (frameCid P))

/-- The envelope of a request in flight. -/
def Asks (s : RtSession P) (msg : Envelope) : Prop :=
  ∃ q op, (q, msg.cid) ∈ s.rt.inFlight ∧ s.ops[q]? = some op ∧ msg = requestEnvelope msg.cid op

/-- A frame on the way to the client is a push, or the answer to a request in flight. -/
def Tells (s : RtSession P) (msg : Envelope) : Prop :=
  (msg.cid = "" ∧ msg.message ∈ s.pushed) ∨
    ∃ question, question.cid = msg.cid ∧ s.Asks question ∧ (question, msg.message) ∈ s.answered

/-- What is under way. -/
structure Wires (s : RtSession P) : Prop where
  up : ∀ frame ∈ s.up, ∃ msg, P.parse frame = some msg ∧ (msg.cid ≠ "" → s.Asks msg)
  asked : ∀ msg ∈ s.asked, msg.cid ≠ "" ∧ s.Asks msg
  down : ∀ frame ∈ s.down, ∃ msg, P.parse frame = some msg ∧ s.Tells msg
  nodup : s.outstanding.Nodup

/-- Both ends read in order what the other has sent. -/
structure Logs (s : RtSession P) : Prop where
  read : (s.read ++ s.up.filterMap P.parse).Sublist s.sent
  heard : (s.heard ++ s.down.filterMap P.parse).Sublist s.told
  asked : ∀ msg ∈ s.asked, msg ∈ s.read
  answered : ∀ p ∈ s.answered, p.1 ∈ s.read

/-- The calls into user code. -/
structure Calls (s : RtSession P) : Prop where
  justified : ∀ d ∈ s.rt.deliveries, s.Justified d.2
  order : (s.results.map Prod.snd).Sublist s.heard
  once : (s.results.map Prod.fst).Nodup
  settled : ∀ q ∈ s.results.map Prod.fst, q < s.ops.length ∧ ∀ cid, (q, cid) ∉ s.rt.inFlight

structure Inv (s : RtSession P) : Prop where
  rt : s.rt.Inv
  ops : s.ops.length = s.rt.requests.length
  wires : s.Wires
  logs : s.Logs
  calls : s.Calls

/-- The second session knows all that the first one knows. -/
structure Grows (s s' : RtSession P) : Prop where
  ops : s.ops <+: s'.ops
  answered : ∀ p ∈ s.answered, p ∈ s'.answered
  pushed : ∀ m ∈ s.pushed, m ∈ s'.pushed
  heard : s.heard.Sublist s'.heard

section
variable {s s' : RtSession P} {msg : Envelope}

theorem Grows.refl (s : RtSession P) : Grows s s :=
  ⟨List.prefix_rfl, fun _ h => h, fun _ h => h, .refl _⟩

theorem Grows.getElem? (h : Grows s s') {q : Nat} {op : RtOp} (hop : s.ops[q]? = some op) :
    s'.ops[q]? = some op := by
  obtain ⟨l, hl⟩ := h.ops
  rw [← hl, List.getElem?_append_left (List.getElem?_eq_some_iff.1 hop).1, hop]

theorem Grows.asks (h : Grows s s') (hinFlight : ∀ p ∈ s.rt.inFlight, p ∈ s'.rt.inFlight)
    (hasks : s.Asks msg) : s'.Asks msg := by
  obtain ⟨q, op, hq, hop, hmsg⟩ := hasks
  exact ⟨q, op, hinFlight _ hq, h.getElem? hop, hmsg⟩

theorem Grows.tells (h : Grows s s') (hinFlight : ∀ p ∈ s.rt.inFlight, p ∈ s'.rt.inFlight)
    (htells : s.Tells msg) : s'.Tells msg := by
  rcases htells with ⟨hcid, hpushed⟩ | ⟨question, hcid, hasks, hanswered⟩
  · exact .inl ⟨hcid, h.pushed _ hpushed⟩
  · exact .inr ⟨question, hcid, h.asks hinFlight hasks, h.answered _ hanswered⟩

theorem Grows.answeredAt (h : Grows s s') {q : Nat} {cid : String} {message : Member}
    (hanswered : s.Answered q cid message) : s'.Answered q cid message := by
  obtain ⟨op, hop, hmem⟩ := hanswered
  exact ⟨op, h.getElem? hop, h.answered _ hmem⟩

theorem Grows.justified (h : Grows s s') {call : UserCall Envelope} (hcall : s.Justified call) :
    s'.Justified call := by
  cases call with
  | success q msg => exact ⟨h.answeredAt hcall.1, hcall.2⟩
  | error q e =>
    rcases hcall with hcall | hcall | ⟨cid, m, hanswered, he⟩
    · exact .inl hcall
    · exact .inr (.inl hcall)
    · exact .inr (.inr ⟨cid, m, h.answeredAt hanswered, he⟩)
  | listener call =>
    intro msg hmsg
    obtain ⟨hpushed, hpush⟩ := hcall msg hmsg
    exact ⟨h.pushed _ hpushed, hpush⟩

/-- What is under way stays so, if it has not moved. -/
theorem Wires.mono (hw : s.Wires) (h : Grows s s')
    (hinFlight : ∀ p ∈ s.rt.inFlight, p ∈ s'.rt.inFlight) (hup : s'.up = s.up)
    (hasked : s'.asked = s.asked) (hdown : s'.down = s.down) : s'.Wires := by
  refine ⟨?_, ?_, ?_, ?_⟩
  · intro frame hframe
    rw [hup] at hframe
    obtain ⟨msg, hmsg, hasks⟩ := hw.up frame hframe
    exact ⟨msg, hmsg, fun hcid => h.asks hinFlight (hasks hcid)⟩
  · intro msg hmsg
    rw [hasked] at hmsg
    exact ⟨(hw.asked msg hmsg).1, h.asks hinFlight (hw.asked msg hmsg).2⟩
  · intro frame hframe
    rw [hdown] at hframe
    obtain ⟨msg, hmsg, htells⟩ := hw.down frame hframe
    exact ⟨msg, hmsg, h.tells hinFlight htells⟩
  · rw [outstanding, hup, hasked, hdown]
    exact hw.nodup

/-- What is under way is in flight. -/
theorem Wires.inFlight (hw : s.Wires) {cid : String} (hcid : cid ∈ s.outstanding) :
    ∃ q, (q, cid) ∈ s.rt.inFlight := by
  have hframe : ∀ {frames : List NBytes}, cid ∈ frames.filterMap (frameCid P) →
      ∃ frame ∈ frames, ∀ msg, P.parse frame = some msg → msg.cid ≠ "" ∧ msg.cid = cid := by
    intro frames h
    obtain ⟨frame, hmem, hf⟩ := List.mem_filterMap.1 h
    refine ⟨frame, hmem, fun msg hmsg => ?_⟩
    rw [frameCid_of_parse hmsg] at hf
    split at hf
    · cases hf
    · next hne => exact ⟨hne, Option.some.inj hf⟩
  rcases List.mem_append.1 hcid with h | h
  · obtain ⟨frame, hmem, hf⟩ := hframe h
    obtain ⟨msg, hmsg, hasks⟩ := hw.up frame hmem
    obtain ⟨hne, rfl⟩ := hf msg hmsg
    obtain ⟨q, -, hq, -⟩ := hasks hne
    exact ⟨q, hq⟩
  · rcases List.mem_append.1 h with h | h
    · obtain ⟨msg, hmsg, rfl⟩ := List.mem_map.1 h
      obtain ⟨q, -, hq, -⟩ := (hw.asked msg hmsg).2
      exact ⟨q, hq⟩
    · obtain ⟨frame, hmem, hf⟩ := hframe h
      obtain ⟨msg, hmsg, htells⟩ := hw.down frame hmem
      obtain ⟨hne, rfl⟩ := hf msg hmsg
      rcases htells with ⟨hempty, -⟩ | ⟨question, hcid', ⟨q, -, hq, -⟩, -⟩
      · exact absurd hempty hne
      · exact ⟨q, hcid' ▸ hq⟩

theorem results_of_rt (h : s'.rt.deliveries = s.rt.deliveries) : s'.results = s.results := by
  rw [results, results, h]

/-- A step that only moves what is under way. -/
theorem Inv.of_queues (hi : s.Inv) (h : Grows s s') (hrt : s'.rt = s.rt) (hops : s'.ops = s.ops)
    (hw : s'.Wires) (hl : s'.Logs) : s'.Inv := by
  refine ⟨hrt ▸ hi.rt, ?_, hw, hl, ?_, ?_, ?_, ?_⟩
  · rw [hops, hrt]
    exact hi.ops
  · rw [hrt]
    exact fun d hd => h.justified (hi.calls.justified d hd)
  · rw [results_of_rt (congrArg RtState.deliveries hrt)]
    exact hi.calls.order.trans h.heard
  · rw [results_of_rt (congrArg RtState.deliveries hrt)]
    exact hi.calls.once
  · rw [results_of_rt (congrArg RtState.deliveries hrt), hops, hrt]
    exact hi.calls.settled

/-! ### The server -/

/-- A frame that the server reads becomes a question, if it has a cid. -/
theorem perm_arrives {frame : NBytes} {up : List NBytes} (hup : s.up = frame :: up)
    (hmsg : P.parse frame = some msg) :
    (up.filterMap (frameCid P) ++ ((s.asked ++ ((some msg).filter fun msg => msg.cid != "").toList).map
      Envelope.cid ++ s.down.filterMap (frameCid P))).Perm s.outstanding := by
  rw [outstanding, hup, List.perm_iff_count]
  intro cid
  by_cases hcid : msg.cid = ""
  · have hf : frameCid P frame = none := by rw [frameCid_of_parse hmsg, if_pos hcid]
    simp [hf, hcid, Option.filter]
  · have hf : frameCid P frame = some msg.cid := by rw [frameCid_of_parse hmsg, if_neg hcid]
    simp [List.count_cons, hf, hcid, Option.filter]
    omega

theorem Inv.arrives (hi : s.Inv) {frame : NBytes} {up : List NBytes} (hup : s.up = frame :: up) :
    Inv (P := P) { s with
      up
      asked := s.asked ++ ((P.parse frame).filter fun msg => msg.cid != "").toList
      read := s.read ++ (P.parse frame).toList } := by
  obtain ⟨msg, hmsg, hasks⟩ := hi.wires.up frame (hup ▸ List.mem_cons_self)
  rw [hmsg]
  have hread := hi.logs.read
  rw [hup, List.filterMap_cons_some hmsg] at hread
  have hquestion : ∀ q ∈ ((some msg).filter fun msg => msg.cid != "").toList,
      q = msg ∧ msg.cid ≠ "" := by
    intro q hq
    obtain ⟨hq, hne⟩ := Option.mem_filter_iff.1 (Option.mem_toList.1 hq)
    exact ⟨(Option.some.inj hq).symm, by simpa [← Option.some.inj hq] using hne⟩
  refine hi.of_queues ⟨List.prefix_rfl, fun _ h => h, fun _ h => h, .refl _⟩ rfl rfl
    ⟨?_, ?_, hi.wires.down, ?_⟩ ⟨?_, hi.logs.heard, ?_, ?_⟩
  · exact fun frame' h => hi.wires.up frame' (hup ▸ List.mem_cons_of_mem _ h)
  · intro q hq
    rcases List.mem_append.1 hq with hq | hq
    · exact hi.wires.asked q hq
    · obtain ⟨rfl, hne⟩ := hquestion q hq
      exact ⟨hne, hasks hne⟩
  · exact (perm_arrives hup hmsg).nodup_iff.2 hi.wires.nodup
  · rw [List.append_assoc]
    exact hread
  · intro q hq
    rcases List.mem_append.1 hq with hq | hq
    · exact List.mem_append_left _ (hi.logs.asked q hq)
    · rw [(hquestion q hq).1]
      exact List.mem_append_right _ (List.mem_singleton_self msg)
  · exact fun p hp => List.mem_append_left _ (hi.logs.answered p hp)

/-- A question that the server answers becomes a frame. -/
theorem perm_answers {n : Nat} {question : Envelope} {frame : NBytes} (hn : s.asked[n]? = some question)
    (hcid : frameCid P frame = some question.cid) :
    (s.up.filterMap (frameCid P) ++ ((s.asked.eraseIdx n).map Envelope.cid ++
      (s.down ++ [frame]).filterMap (frameCid P))).Perm s.outstanding := by
  obtain ⟨hlt, hget⟩ := List.getElem?_eq_some_iff.1 hn
  have hasked : s.asked.Perm (question :: s.asked.eraseIdx n) :=
    hget ▸ (List.getElem_cons_eraseIdx_perm hlt).symm
  have hmap := (hasked.map Envelope.cid).append_right (s.down.filterMap (frameCid P))
  refine (List.Perm.append_left _ ?_).trans (hmap.symm.append_left _)
  rw [List.filterMap_append, List.filterMap_cons_some hcid, List.filterMap_nil, ← List.append_assoc]
  exact List.perm_append_singleton _ _

theorem Inv.answers (hi : s.Inv) {n : Nat} {question : Envelope} {message : Member} {frame : NBytes}
    (hn : s.asked[n]? = some question)
    (hframe : P.serialize { cid := question.cid, message } = some frame) :
    Inv (P := P) { s with
      asked := s.asked.eraseIdx n
      down := s.down ++ [frame]
      told := s.told ++ [{ cid := question.cid, message }]
      answered := s.answered ++ [(question, message)] } := by
  have hmem : question ∈ s.asked := List.mem_of_getElem? hn
  obtain ⟨hne, hasks⟩ := hi.wires.asked question hmem
  have hparse := P.parse_serialize hframe
  have hcid : frameCid P frame = some question.cid := by
    rw [frameCid_of_parse hparse, if_neg hne]
  have hgrows : Grows (P := P) s { s with
      asked := s.asked.eraseIdx n
      down := s.down ++ [frame]
      told := s.told ++ [{ cid := question.cid, message }]
      answered := s.answered ++ [(question, message)] } :=
    ⟨List.prefix_rfl, fun _ h => List.mem_append_left _ h, fun _ h => h, .refl _⟩
  refine hi.of_queues hgrows rfl rfl
    ⟨hi.wires.up, ?_, ?_, (perm_answers hn hcid).nodup_iff.2 hi.wires.nodup⟩
    ⟨hi.logs.read, ?_, ?_, ?_⟩
  · exact fun q hq => hi.wires.asked q (List.mem_of_mem_eraseIdx hq)
  · intro frame' h
    rcases List.mem_append.1 h with h | h
    · obtain ⟨msg, hmsg, htells⟩ := hi.wires.down frame' h
      exact ⟨msg, hmsg, hgrows.tells (fun _ h => h) htells⟩
    · rw [List.mem_singleton.1 h]
      exact ⟨_, hparse, .inr ⟨question, rfl, hasks,
        List.mem_append_right _ (List.mem_singleton_self _)⟩⟩
  · rw [List.filterMap_append, List.filterMap_cons_some hparse, ← List.append_assoc]
    exact hi.logs.heard.append_right _
  · exact fun q hq => hi.logs.asked q (List.mem_of_mem_eraseIdx hq)
  · intro p hp
    rcases List.mem_append.1 hp with hp | hp
    · exact hi.logs.answered p hp
    · rw [List.mem_singleton.1 hp]
      exact hi.logs.asked question hmem

theorem Inv.pushes (hi : s.Inv) {message : Member} {frame : NBytes}
    (hframe : P.serialize { message } = some frame) :
    Inv (P := P) { s with
      down := s.down ++ [frame]
      told := s.told ++ [{ message }]
      pushed := s.pushed ++ [message] } := by
  have hparse := P.parse_serialize hframe
  have hcid : frameCid P frame = none := by rw [frameCid_of_parse hparse, if_pos rfl]
  have hgrows : Grows (P := P) s { s with
      down := s.down ++ [frame]
      told := s.told ++ [{ message }]
      pushed := s.pushed ++ [message] } :=
    ⟨List.prefix_rfl, fun _ h => h, fun _ h => List.mem_append_left _ h, .refl _⟩
  refine hi.of_queues hgrows rfl rfl ⟨hi.wires.up, hi.wires.asked, ?_, ?_⟩
    ⟨hi.logs.read, ?_, hi.logs.asked, hi.logs.answered⟩
  · intro frame' h
    rcases List.mem_append.1 h with h | h
    · obtain ⟨msg, hmsg, htells⟩ := hi.wires.down frame' h
      exact ⟨msg, hmsg, hgrows.tells (fun _ h => h) htells⟩
    · rw [List.mem_singleton.1 h]
      exact ⟨_, hparse, .inl ⟨rfl, List.mem_append_right _ (List.mem_singleton_self _)⟩⟩
  · have hsame : (s.down ++ [frame]).filterMap (frameCid P) = s.down.filterMap (frameCid P) := by
      rw [List.filterMap_append, List.filterMap_cons_none hcid, List.filterMap_nil, List.append_nil]
    rw [outstanding, hsame]
    exact hi.wires.nodup
  · rw [List.filterMap_append, List.filterMap_cons_some hparse, ← List.append_assoc]
    exact hi.logs.heard.append_right _

/-! ### Losses -/

theorem Inv.lost (hi : s.Inv) {up down : List NBytes} {asked : List Envelope}
    (hup : up.Sublist s.up) (hasked : asked.Sublist s.asked) (hdown : down.Sublist s.down) :
    Inv (P := P) { s with up, down, asked } := by
  refine hi.of_queues ⟨List.prefix_rfl, fun _ h => h, fun _ h => h, .refl _⟩ rfl rfl
    ⟨fun f h => hi.wires.up f (hup.subset h), fun q h => hi.wires.asked q (hasked.subset h),
      fun f h => hi.wires.down f (hdown.subset h), ?_⟩
    ⟨?_, ?_, fun q h => hi.logs.asked q (hasked.subset h), hi.logs.answered⟩
  · exact hi.wires.nodup.sublist ((hup.filterMap _).append
      ((hasked.map _).append (hdown.filterMap _)))
  · exact ((hup.filterMap _).append_left _).trans hi.logs.read
  · exact ((hdown.filterMap _).append_left _).trans hi.logs.heard

/-! ### The client -/

theorem quiet_justified {call : UserCall Envelope} (h : Quiet call) :
    s.Justified call ∧ successOf call = none := by
  obtain ⟨c, rfl, hc⟩ := h
  refine ⟨fun msg hmsg => ?_, rfl⟩
  rw [hc] at hmsg
  cases hmsg

/-- Calls that are no successes, and no request that has had one in flight again. -/
theorem Calls.extend (hc : s.Calls) (h : Grows s s') {ds : List (Option Nat × UserCall Envelope)}
    (hdeliveries : s'.rt.deliveries = s.rt.deliveries ++ ds)
    (hds : ∀ d ∈ ds, s'.Justified d.2 ∧ successOf d.2 = none)
    (hsettled : ∀ q < s.ops.length, (∀ cid, (q, cid) ∉ s.rt.inFlight) →
      ∀ cid, (q, cid) ∉ s'.rt.inFlight) : s'.Calls := by
  have hnone : ds.filterMap (fun d => successOf d.2) = [] :=
    List.filterMap_eq_nil_iff.2 fun d hd => (hds d hd).2
  have hresults : s'.results = s.results := by
    rw [results, hdeliveries, List.filterMap_append, hnone, List.append_nil]
    rfl
  refine ⟨?_, ?_, ?_, ?_⟩
  · rw [hdeliveries]
    intro d hd
    rcases List.mem_append.1 hd with hd | hd
    · exact h.justified (hc.justified d hd)
    · exact (hds d hd).1
  · rw [hresults]
    exact hc.order.trans h.heard
  · rw [hresults]
    exact hc.once
  · rw [hresults]
    intro q hq
    obtain ⟨hlt, hno⟩ := hc.settled q hq
    exact ⟨Nat.lt_of_lt_of_le hlt h.ops.length_le, hsettled q hlt hno⟩

theorem Inv.local_ (hi : s.Inv) {a : RtAction Envelope} {rt : RtState Envelope}
    (ha : isLocal a = true) (h : s.rt.step a = some rt) : Inv (P := P) { s with rt } := by
  have hpassive := passive_of_local ha h
  obtain ⟨ds, hdeliveries, hds⟩ := hpassive.deliveries
  have hb : s.rt.idsBounded a = true := by
    cases a with
    | request => cases ha
    | _ => rfl
  have hsame : ∀ p, p ∈ rt.inFlight ↔ p ∈ s.rt.inFlight := fun p => by rw [hpassive.inFlight]
  have hgrows : Grows (P := P) s { s with rt } := ⟨List.prefix_rfl, fun _ h => h, fun _ h => h, .refl _⟩
  refine ⟨hi.rt.step hb h, hi.ops.trans hpassive.requests.symm,
    hi.wires.mono hgrows (fun p => (hsame p).2) rfl rfl rfl, ⟨hi.logs.read, hi.logs.heard,
      hi.logs.asked, hi.logs.answered⟩,
    hi.calls.extend hgrows hdeliveries (fun d hd => quiet_justified (hds d hd)) ?_⟩
  exact fun q _ hno cid hq => hno cid ((hsame _).1 hq)

/-- The cid that an operation takes is under way nowhere. -/
theorem Inv.cid_fresh (hi : s.Inv) : toString s.rt.client.resetCid.nextCid ∉ s.outstanding := by
  intro h
  obtain ⟨q, hq⟩ := hi.wires.inFlight h
  obtain ⟨k, hk, hentry, -⟩ := hi.rt.sent q _ hq
  rw [← toString_inj hk] at hentry
  exact hi.rt.fresh q hentry

/-- A frame that the transport has taken. -/
theorem Wires.send (hw : s'.Wires) {frame : NBytes} (hparse : P.parse frame = some msg)
    (hasks : msg.cid ≠ "" → s'.Asks msg) (hfresh : msg.cid ∉ s'.outstanding) :
    Wires (P := P) { s' with up := s'.up ++ [frame] } := by
  refine ⟨?_, hw.asked, hw.down, ?_⟩
  · intro frame' h
    rcases List.mem_append.1 h with h | h
    · exact hw.up frame' h
    · rw [List.mem_singleton.1 h]
      exact ⟨msg, hparse, hasks⟩
  · by_cases hcid : msg.cid = ""
    · have hf : frameCid P frame = none := by rw [frameCid_of_parse hparse, if_pos hcid]
      have hsame : (s'.up ++ [frame]).filterMap (frameCid P) = s'.up.filterMap (frameCid P) := by
        rw [List.filterMap_append, List.filterMap_cons_none hf, List.filterMap_nil, List.append_nil]
      rw [outstanding, hsame]
      exact hw.nodup
    · have hf : frameCid P frame = some msg.cid := by rw [frameCid_of_parse hparse, if_neg hcid]
      have hperm : ((s'.up ++ [frame]).filterMap (frameCid P) ++ (s'.asked.map Envelope.cid ++
          s'.down.filterMap (frameCid P))).Perm (msg.cid :: s'.outstanding) := by
        rw [List.filterMap_append, List.filterMap_cons_some hf, List.filterMap_nil,
          List.append_assoc]
        exact List.perm_middle
      exact hperm.nodup_iff.2 (List.nodup_cons.2 ⟨hfresh, hw.nodup⟩)

/-- The logs after an operation, which gives the transport a frame or none. -/
theorem Logs.send (hl : s.Logs) (taken : Option NBytes)
    (hparse : ∀ frame ∈ taken, P.parse frame = some msg) :
    (s.read ++ (s.up ++ taken.toList).filterMap P.parse).Sublist
      (s.sent ++ (taken.map fun _ => msg).toList) := by
  cases taken with
  | none =>
    rw [Option.toList_none, List.append_nil, Option.map_none, Option.toList_none, List.append_nil]
    exact hl.read
  | some frame =>
    rw [Option.toList_some, List.filterMap_append, List.filterMap_cons_some (hparse frame rfl),
      ← List.append_assoc]
    exact hl.read.append_right _

/-- Match data has no context. -/
theorem Inv.sendMatchData (hi : s.Inv) (taken : Option NBytes) (hcid : msg.cid = "")
    (hparse : ∀ frame ∈ taken, P.parse frame = some msg) :
    Inv (P := P) { s with
      up := s.up ++ taken.toList
      sent := s.sent ++ (taken.map fun _ => msg).toList } := by
  refine hi.of_queues ⟨List.prefix_rfl, fun _ h => h, fun _ h => h, .refl _⟩ rfl rfl ?_
    ⟨hi.logs.send taken hparse, hi.logs.heard, hi.logs.asked, hi.logs.answered⟩
  cases taken with
  | none =>
    refine hi.wires.mono ⟨List.prefix_rfl, fun _ h => h, fun _ h => h, .refl _⟩ (fun _ h => h) ?_ rfl rfl
    exact List.append_nil _
  | some frame =>
    have hfresh : msg.cid ∉ s.outstanding := by
      intro h
      obtain ⟨q, hq⟩ := hi.wires.inFlight h
      obtain ⟨k, hk, -⟩ := hi.rt.sent q _ hq
      exact NRtClient.toString_ne_empty k (hk.symm.trans hcid)
    have hsent := hi.wires.send (hparse frame rfl) (absurd hcid) hfresh
    exact ⟨hsent.up, hsent.asked, hsent.down, hsent.nodup⟩

/-- A request that the transport has taken is in flight. -/
theorem Inv.transmitted (hi : s.Inv) {op : RtOp} {sc ec : Bool} {rt : RtState Envelope}
    {frame : NBytes} (hrt : rt.Inv)
    (h : rt = { s.rt.issue sc ec with
      inFlight := s.rt.inFlight ++ [(s.rt.requests.length, toString s.rt.client.resetCid.nextCid)] })
    (hframe : P.serialize (requestEnvelope (toString s.rt.client.resetCid.nextCid) op) = some frame) :
    Inv (P := P) { s with
      rt
      ops := s.ops ++ [op]
      up := s.up ++ [frame]
      sent := s.sent ++ [requestEnvelope (toString s.rt.client.resetCid.nextCid) op] } := by
  have hparse := P.parse_serialize hframe
  have hinFlight : rt.inFlight = s.rt.inFlight ++
      [(s.rt.requests.length, toString s.rt.client.resetCid.nextCid)] := by rw [h]
  have hrequests : rt.requests.length = s.rt.requests.length + 1 := by
    rw [h]
    exact List.length_append
  have hgrows : Grows (P := P) s { s with rt, ops := s.ops ++ [op] } :=
    ⟨List.prefix_append .., fun _ h => h, fun _ h => h, .refl _⟩
  have hkept : ∀ p ∈ s.rt.inFlight, p ∈ rt.inFlight := fun p hp =>
    hinFlight ▸ List.mem_append_left _ hp
  have hasks : Asks (P := P) { s with rt, ops := s.ops ++ [op] }
      (requestEnvelope (toString s.rt.client.resetCid.nextCid) op) := by
    refine ⟨s.rt.requests.length, op, ?_, ?_, rfl⟩
    · show _ ∈ rt.inFlight
      rw [hinFlight]
      exact List.mem_append_right _ (List.mem_singleton_self _)
    · rw [← hi.ops]
      exact List.getElem?_concat_length
  have hw := hi.wires.mono hgrows hkept rfl rfl rfl
  have hsent := hw.send hparse (fun _ => hasks) hi.cid_fresh
  have hcalls : Calls (P := P) { s with rt, ops := s.ops ++ [op] } := by
    have hdeliveries : rt.deliveries = s.rt.deliveries ++ [] := by
      rw [h, List.append_nil]
      rfl
    refine hi.calls.extend hgrows hdeliveries (fun _ h => absurd h List.not_mem_nil) ?_
    intro q hlt hno cid hq
    have hmem : (q, cid) ∈ rt.inFlight := hq
    rw [hinFlight] at hmem
    rcases List.mem_append.1 hmem with hmem | hmem
    · exact hno cid hmem
    · rw [hi.ops, (Prod.mk.inj (List.mem_singleton.1 hmem)).1] at hlt
      exact absurd hlt (lt_irrefl _)
  refine ⟨hrt, ?_, ⟨hsent.up, hsent.asked, hsent.down, hsent.nodup⟩,
    ⟨hi.logs.send (some frame) fun _ hf => Option.some.inj hf ▸ hparse, hi.logs.heard,
      hi.logs.asked, hi.logs.answered⟩,
    ⟨fun d hd => ?_, hcalls.order, hcalls.once, hcalls.settled⟩⟩
  · show (s.ops ++ [op]).length = rt.requests.length
    rw [List.length_append, hi.ops, hrequests]
    rfl
  · have hgrows' : Grows (P := P) { s with rt, ops := s.ops ++ [op] } { s with
        rt
        ops := s.ops ++ [op]
        up := s.up ++ [frame]
        sent := s.sent ++ [requestEnvelope (toString s.rt.client.resetCid.nextCid) op] } :=
      ⟨List.prefix_rfl, fun _ h => h, fun _ h => h, .refl _⟩
    exact hgrows'.justified (hcalls.justified d hd)

/-- A request that has failed tells a local error. -/
theorem Inv.failed (hi : s.Inv) (op : RtOp) {sc ec b : Bool} {rt : RtState Envelope} {e : NRtError}
    (hrt : rt.Inv) (he : LocalError e)
    (h : rt = (s.rt.issue sc ec).enter (some s.rt.requests.length)
      ((s.rt.issue sc ec).client.reqInternalError s.rt.client.resetCid.nextCid e) b) :
    Inv (P := P) { s with rt, ops := s.ops ++ [op] } := by
  obtain ⟨hinFlight, hrequests, hdeliveries⟩ := enter_frame (s.rt.issue sc ec)
    (some s.rt.requests.length)
    ((s.rt.issue sc ec).client.reqInternalError s.rt.client.resetCid.nextCid e) b
  rw [← h] at hinFlight hrequests hdeliveries
  have hgrows : Grows (P := P) s { s with rt, ops := s.ops ++ [op] } :=
    ⟨List.prefix_append .., fun _ h => h, fun _ h => h, .refl _⟩
  refine ⟨hrt, ?_, hi.wires.mono hgrows (fun p hp => hinFlight.symm ▸ hp) rfl rfl rfl,
    ⟨hi.logs.read, hi.logs.heard, hi.logs.asked, hi.logs.answered⟩,
    hi.calls.extend hgrows hdeliveries ?_ fun q _ hno cid hq => hno cid (hinFlight ▸ hq)⟩
  · show (s.ops ++ [op]).length = rt.requests.length
    have hissue : (s.rt.issue sc ec).requests.length = s.rt.requests.length + 1 :=
      List.length_append
    rw [hrequests, hissue, List.length_append, hi.ops]
    rfl
  · intro d hd
    obtain ⟨call, hcall, rfl⟩ := List.mem_map.1 hd
    rcases reqInternalError_calls _ _ _ call hcall with ⟨q, rfl⟩ | hquiet
    · exact ⟨he.elim .inl fun he => .inr (.inl he), rfl⟩
    · exact quiet_justified hquiet

theorem Inv.perform (hi : s.Inv) {op : RtOp} {sc ec sends : Bool}
    (hb : s.idsBounded (.perform op sc ec sends) = true)
    (h : s.step (.perform op sc ec sends) = some s') : s'.Inv := by
  obtain ⟨rt, hrt, h⟩ := Option.bind_eq_some_iff.1 h
  cases h
  by_cases hop : op.hasContext = true
  · have hcid : s.cid op = toString s.rt.client.resetCid.nextCid := if_pos hop
    have hissued : s.rt.issuedNext < 2 ^ 31 := by simpa [idsBounded, hop] using hb
    rw [request, if_pos hop] at hrt
    have hinv : rt.Inv := hi.rt.step (by simpa [RtState.idsBounded] using hissued) hrt
    rw [hcid] at hrt ⊢
    rw [if_pos hop]
    rcases request_step s.rt sc ec
        (P.serialize (requestEnvelope (toString s.rt.client.resetCid.nextCid) op)).isSome sends with
      ⟨hsent, hstep⟩ | ⟨hno, e, b, he, hstep⟩
    · have hrt' := Option.some.inj (hrt.symm.trans hstep)
      simp only [Bool.and_eq_true] at hsent
      obtain ⟨frame, hframe⟩ := Option.isSome_iff_exists.1 hsent.1.2
      have htransmitted := hi.transmitted hinv hrt' hframe
      rw [if_pos (by rw [hsent.1.1, hsent.2]; rfl), hframe]
      exact htransmitted
    · have hrt' := Option.some.inj (hrt.symm.trans hstep)
      have htaken : (if s.rt.connected && sends then
          P.serialize (requestEnvelope (toString s.rt.client.resetCid.nextCid) op) else none) = none := by
        split
        · next hconnected =>
          rw [Bool.and_right_comm, hconnected, Bool.true_and] at hno
          exact Option.not_isSome_iff_eq_none.1 (by rw [hno]; exact Bool.false_ne_true)
        · rfl
      have hfailed := hi.failed op hinv he hrt'
      rw [htaken]
      simp only [Option.map_none, Option.toList_none, List.append_nil]
      exact hfailed
  · have hcid : s.cid op = "" := if_neg hop
    rw [request, if_neg hop, sendMatchData_step] at hrt
    cases hrt
    rw [if_neg hop, hcid]
    refine hi.sendMatchData _ rfl fun frame hframe => ?_
    split at hframe
    · exact P.parse_serialize hframe
    · cases hframe

/-! ### Frames that the client reads -/

/-- The calls for a push: the method for its message, or one that brings none. -/
theorem dispatchPush_cases (c : NRtClient) (connected : Bool) (msg : Realtime.Envelope Envelope) :
    ∀ call ∈ (c.dispatchPush connected msg).calls, Quiet call ∨
      ∃ l, call = .listener l ∧ NRtClient.pushCall msg = some l := by
  unfold NRtClient.dispatchPush
  split
  · split
    · intro call hcall
      exact .inl ⟨_, List.mem_singleton.1 hcall, rfl⟩
    · split
      · next l hpush =>
        intro call hcall
        exact .inr ⟨l, List.mem_singleton.1 hcall, hpush⟩
      · intro call hcall
        exact .inl (quiet_listener rfl call hcall)
  · intro call hcall
    cases hcall

theorem listenerPayload_pushCall {π : Type} {msg : Realtime.Envelope π} {l : ListenerCall π}
    (h : NRtClient.pushCall msg = some l) : listenerPayload l = some msg.payload := by
  unfold NRtClient.pushCall at h
  split at h
  all_goals cases h
  all_goals rfl

/-- The logs after a frame is read. -/
theorem Logs.hear (hl : s.Logs) {frame : NBytes} {down : List NBytes} (hdown : s.down = frame :: down)
    (hmsg : P.parse frame = some msg) :
    (s.heard ++ [msg] ++ down.filterMap P.parse).Sublist s.told := by
  have hheard := hl.heard
  rw [hdown, List.filterMap_cons_some hmsg] at hheard
  rw [List.append_assoc]
  exact hheard

theorem Inv.hearPush (hi : s.Inv) {frame : NBytes} {down : List NBytes}
    (hdown : s.down = frame :: down) (hmsg : P.parse frame = some msg) (hcid : msg.cid = "")
    (hpushed : msg.message ∈ s.pushed) :
    Inv (P := P) { s with
      down
      heard := s.heard ++ [msg]
      rt := s.receiveFrame (some (Envelope.received id msg)) } := by
  have hstep := receiveFrame_push (s := s) hcid
  have hrt := receiveFrame_push_eq (s := s) hcid
  obtain ⟨hinFlight, hrequests, hdeliveries⟩ := enter_frame s.rt none
    (s.rt.client.dispatchPush s.rt.connected (Envelope.received id msg)) false
  rw [← hrt] at hinFlight hrequests hdeliveries
  have hgrows : Grows (P := P) s { s with
      down
      heard := s.heard ++ [msg]
      rt := s.receiveFrame (some (Envelope.received id msg)) } :=
    ⟨List.prefix_rfl, fun _ h => h, fun _ h => h, List.sublist_append_left ..⟩
  have hf : frameCid P frame = none := by rw [frameCid_of_parse hmsg, if_pos hcid]
  have hkept : ∀ p ∈ s.rt.inFlight,
      p ∈ (s.receiveFrame (some (Envelope.received id msg))).inFlight := fun p hp =>
    hinFlight.symm ▸ hp
  refine ⟨hi.rt.step rfl hstep, hi.ops.trans (congrArg List.length hrequests).symm,
    ⟨fun f hf => ?_, fun q hq => ?_, fun f hf => ?_, ?_⟩,
    ⟨hi.logs.read, hi.logs.hear hdown hmsg, hi.logs.asked, hi.logs.answered⟩,
    hi.calls.extend hgrows hdeliveries (fun d hd => ?_)
      fun q _ hno cid hq => hno cid (hinFlight ▸ hq)⟩
  · obtain ⟨m, hm, hasks⟩ := hi.wires.up f hf
    exact ⟨m, hm, fun hne => hgrows.asks hkept (hasks hne)⟩
  · exact ⟨(hi.wires.asked q hq).1, hgrows.asks hkept (hi.wires.asked q hq).2⟩
  · obtain ⟨m, hm, htells⟩ := hi.wires.down f (hdown ▸ List.mem_cons_of_mem _ hf)
    exact ⟨m, hm, hgrows.tells hkept htells⟩
  · have hnodup := hi.wires.nodup
    rw [outstanding, hdown, List.filterMap_cons_none hf] at hnodup
    exact hnodup
  · obtain ⟨call, hcall, rfl⟩ := List.mem_map.1 hd
    rcases dispatchPush_cases _ _ _ call hcall with hquiet | ⟨l, rfl, hpush⟩
    · exact quiet_justified hquiet
    · refine ⟨fun m hm => ?_, rfl⟩
      rw [listenerPayload_pushCall hpush] at hm
      obtain rfl : msg = m := Option.some.inj hm
      exact ⟨hpushed, hpush⟩

/-- A question of another cid is asked still, when an answer has been read. -/
theorem Asks.keep (hi : s.Inv) {q : Nat} {cid : String} (hq : (q, cid) ∈ s.rt.inFlight)
    (hinFlight : s'.rt.inFlight = s.rt.inFlight.filter fun p => p.1 != q) (hops : s'.ops = s.ops)
    (hne : msg.cid ≠ cid) (hasks : s.Asks msg) : s'.Asks msg := by
  obtain ⟨q', op, hq', hop, hmsg⟩ := hasks
  refine ⟨q', op, ?_, hops ▸ hop, hmsg⟩
  rw [hinFlight, List.mem_filter]
  refine ⟨hq', ?_⟩
  rw [bne_iff_ne]
  intro he
  exact hne (congrArg Prod.snd (List.inj_on_of_nodup_map hi.rt.once hq' hq he))

/-- The answer to a request in flight. -/
theorem receiveFrame_cases (hi : s.Inv) {q : Nat} (hq : (q, msg.cid) ∈ s.rt.inFlight) :
    ∃ k ctx, ctx.request = q ∧ s.receiveFrame (some (Envelope.received id msg)) =
      { s.rt with inFlight := s.rt.inFlight.filter fun p => p.1 != q }.enter (some q)
        ⟨s.rt.client.answerCalls ctx (Envelope.received id msg), some k⟩ false := by
  obtain ⟨k, ctx, hmem, -, -, hrequest, hrt⟩ :=
    RtState.answer_cases hi.rt (receiveFrame_answer hi.rt hq)
  have hcid : toString k = msg.cid :=
    congrArg Prod.snd (List.inj_on_of_nodup_map hi.rt.once hmem hq rfl)
  rw [hcid] at hrt
  exact ⟨k, ctx, hrequest, hrt⟩

/-- The calls that an answer makes: the success callback once, or none of it. -/
theorem answerCalls_cases (c : NRtClient) (ctx : RtRequestContext) (msg : Realtime.Envelope Envelope) :
    (c.answerCalls ctx msg = [.success ctx.request msg] ∧ msg.hasError = false) ∨
      ∀ call ∈ c.answerCalls ctx msg,
        (call = .error ctx.request msg.error ∧ msg.hasError = true) ∨ Quiet call := by
  unfold NRtClient.answerCalls
  by_cases herror : msg.hasError = true
  · rw [if_pos herror]
    refine .inr ?_
    split
    · exact fun call hcall => .inl ⟨List.mem_singleton.1 hcall, herror⟩
    · exact fun call hcall => .inr (quiet_listener rfl call hcall)
  · rw [if_neg herror]
    split
    · exact .inl ⟨rfl, Bool.eq_false_iff.2 herror⟩
    · exact .inr fun call hcall => absurd hcall List.not_mem_nil

/-- The calls after an answer. -/
theorem Calls.answered (hc : s.Calls) (hgrows : Grows s s') {q : Nat} {ctx : RtRequestContext}
    (hctx : ctx.request = q) (hlt : q < s.ops.length) (hq : (q, msg.cid) ∈ s.rt.inFlight)
    (hheard : s'.heard = s.heard ++ [msg])
    (hanswered : s'.Answered q msg.cid msg.message)
    (hinFlight : s'.rt.inFlight = s.rt.inFlight.filter fun p => p.1 != q)
    (hdeliveries : s'.rt.deliveries = s.rt.deliveries ++
      (s.rt.client.answerCalls ctx (Envelope.received id msg)).map fun call => (some q, call)) :
    s'.Calls := by
  have hgone : ∀ p ∈ s'.rt.inFlight, p ∈ s.rt.inFlight ∧ p.1 ≠ q := by
    intro p hp
    rw [hinFlight] at hp
    exact ⟨(List.mem_filter.1 hp).1, by simpa using (List.mem_filter.1 hp).2⟩
  rcases answerCalls_cases s.rt.client ctx (Envelope.received id msg) with ⟨hcalls, -⟩ | hcalls
  · rw [hcalls, hctx, List.map_singleton] at hdeliveries
    have hresults : s'.results = s.results ++ [(q, msg)] := by
      rw [results, hdeliveries, List.filterMap_append]
      rfl
    refine ⟨?_, ?_, ?_, ?_⟩
    · rw [hdeliveries]
      intro d hd
      rcases List.mem_append.1 hd with hd | hd
      · exact hgrows.justified (hc.justified d hd)
      · rw [List.mem_singleton.1 hd]
        exact ⟨hanswered, rfl⟩
    · rw [hresults, hheard, List.map_append]
      exact hc.order.append_right _
    · rw [hresults, List.map_append, List.nodup_append]
      refine ⟨hc.once, List.nodup_singleton _, ?_⟩
      intro a ha b hb hab
      rw [List.mem_singleton.1 hb] at hab
      exact (hc.settled a ha).2 msg.cid (hab ▸ hq)
    · rw [hresults, List.map_append]
      intro q' hq'
      rcases List.mem_append.1 hq' with hq' | hq'
      · obtain ⟨hlt', hno⟩ := hc.settled q' hq'
        exact ⟨Nat.lt_of_lt_of_le hlt' hgrows.ops.length_le, fun cid h => hno cid (hgone _ h).1⟩
      · rw [List.mem_singleton.1 hq']
        exact ⟨Nat.lt_of_lt_of_le hlt hgrows.ops.length_le, fun cid h => (hgone _ h).2 rfl⟩
  · refine hc.extend hgrows hdeliveries ?_ fun q' _ hno cid h => hno cid (hgone _ h).1
    intro d hd
    obtain ⟨call, hcall, rfl⟩ := List.mem_map.1 hd
    rcases hcalls call hcall with ⟨rfl, herror⟩ | hquiet
    · obtain ⟨cid, k, m⟩ := msg
      obtain rfl : k = .error := by simpa [Realtime.Envelope.hasError, Envelope.received] using herror
      exact ⟨.inr (.inr ⟨cid, m, hctx ▸ hanswered, rfl⟩), rfl⟩
    · exact quiet_justified hquiet

theorem Inv.hearAnswer (hi : s.Inv) {frame : NBytes} {down : List NBytes} {question : Envelope}
    (hdown : s.down = frame :: down) (hmsg : P.parse frame = some msg)
    (hcid : question.cid = msg.cid) (hasks : s.Asks question)
    (hanswered : (question, msg.message) ∈ s.answered) :
    Inv (P := P) { s with
      down
      heard := s.heard ++ [msg]
      rt := s.receiveFrame (some (Envelope.received id msg)) } := by
  obtain ⟨q, op, hq, hop, hquestion⟩ := hasks
  rw [hcid] at hq hquestion
  have hne : msg.cid ≠ "" := by
    obtain ⟨k, hk, -⟩ := hi.rt.sent q _ hq
    rw [hk]
    exact NRtClient.toString_ne_empty k
  obtain ⟨k, ctx, hctx, hrt⟩ := receiveFrame_cases hi hq
  obtain ⟨hinFlight, hrequests, hdeliveries⟩ := enter_frame
    { s.rt with inFlight := s.rt.inFlight.filter fun p => p.1 != q } (some q)
    ⟨s.rt.client.answerCalls ctx (Envelope.received id msg), some k⟩ false
  rw [← hrt] at hinFlight hrequests hdeliveries
  have hgrows : Grows (P := P) s { s with
      down
      heard := s.heard ++ [msg]
      rt := s.receiveFrame (some (Envelope.received id msg)) } :=
    ⟨List.prefix_rfl, fun _ h => h, fun _ h => h, List.sublist_append_left ..⟩
  have hf : frameCid P frame = some msg.cid := by rw [frameCid_of_parse hmsg, if_neg hne]
  -- the cid of the answer is under way nowhere else
  have hnodup : (msg.cid :: (s.up.filterMap (frameCid P) ++
      (s.asked.map Envelope.cid ++ down.filterMap (frameCid P)))).Nodup := by
    have hall := hi.wires.nodup
    rw [outstanding, hdown, List.filterMap_cons_some hf, ← List.append_assoc] at hall
    rw [← List.append_assoc]
    exact List.perm_middle.nodup_iff.1 hall
  obtain ⟨hno, hrest⟩ := List.nodup_cons.1 hnodup
  have hother : ∀ {m : Envelope}, m.cid ∈ s.up.filterMap (frameCid P) ++
      (s.asked.map Envelope.cid ++ down.filterMap (frameCid P)) → s.Asks m → Asks (P := P) { s with
        down
        heard := s.heard ++ [msg]
        rt := s.receiveFrame (some (Envelope.received id msg)) } m := by
    intro m hm hasks
    exact hasks.keep hi hq hinFlight rfl fun he => hno (he ▸ hm)
  have hcidOf : ∀ {f : NBytes} {m : Envelope}, P.parse f = some m → m.cid ≠ "" →
      frameCid P f = some m.cid := fun hm hne => by rw [frameCid_of_parse hm, if_neg hne]
  refine ⟨hi.rt.step rfl (receiveFrame_answer hi.rt hq),
    hi.ops.trans (congrArg List.length hrequests).symm,
    ⟨fun f hf => ?_, fun m hm => ?_, fun f hf => ?_, hrest⟩,
    ⟨hi.logs.read, hi.logs.hear hdown hmsg, hi.logs.asked, hi.logs.answered⟩,
    hi.calls.answered hgrows hctx (List.getElem?_eq_some_iff.1 hop).1 hq rfl
      ⟨op, hop, hquestion ▸ hanswered⟩ hinFlight hdeliveries⟩
  · obtain ⟨m, hm, hasks⟩ := hi.wires.up f hf
    exact ⟨m, hm, fun hne => hother (List.mem_append_left _
      (List.mem_filterMap.2 ⟨f, hf, hcidOf hm hne⟩)) (hasks hne)⟩
  · obtain ⟨hne, hasks⟩ := hi.wires.asked m hm
    exact ⟨hne, hother (List.mem_append_right _ (List.mem_append_left _
      (List.mem_map_of_mem hm))) hasks⟩
  · obtain ⟨m, hm, htells⟩ := hi.wires.down f (hdown ▸ List.mem_cons_of_mem _ hf)
    refine ⟨m, hm, ?_⟩
    rcases htells with hpush | ⟨question', hcid', hasks, hans⟩
    · exact .inl hpush
    · have hne' : m.cid ≠ "" := by
        obtain ⟨q', -, hq', -⟩ := hasks
        obtain ⟨k', hk', -⟩ := hi.rt.sent q' _ hq'
        rw [← hcid', hk']
        exact NRtClient.toString_ne_empty k'
      refine .inr ⟨question', hcid', hother ?_ hasks, hans⟩
      rw [hcid']
      exact List.mem_append_right _ (List.mem_append_right _
        (List.mem_filterMap.2 ⟨f, hf, hcidOf hm hne'⟩))

/-! ### Runs -/

theorem inv_init : Inv ({} : RtSession P) := by
  refine ⟨RtState.inv_init, rfl, ⟨?_, ?_, ?_, List.nodup_nil⟩, ⟨.refl _, .refl _, ?_, ?_⟩,
    ⟨?_, .refl _, List.nodup_nil, ?_⟩⟩
  all_goals exact fun _ h => absurd h List.not_mem_nil

theorem Inv.step {a : RtSessionAction} (hi : s.Inv) (hb : s.idsBounded a = true)
    (h : s.step a = some s') : s'.Inv := by
  cases a with
  | perform op sc ec sends => exact hi.perform hb h
  | local_ a =>
    rw [RtSession.step] at h
    split at h
    · next ha =>
      obtain ⟨rt, hrt, h⟩ := Option.bind_eq_some_iff.1 h
      cases h
      exact hi.local_ ha hrt
    · cases h
  | arrives =>
    rw [RtSession.step] at h
    split at h
    · cases h
    · next frame up hup =>
      cases h
      exact hi.arrives hup
  | answers n message =>
    obtain ⟨question, hquestion, h⟩ := Option.bind_eq_some_iff.1 h
    obtain ⟨frame, hframe, h⟩ := Option.bind_eq_some_iff.1 h
    cases h
    exact hi.answers hquestion hframe
  | pushes message =>
    obtain ⟨frame, hframe, h⟩ := Option.bind_eq_some_iff.1 h
    cases h
    exact hi.pushes hframe
  | receives =>
    rw [RtSession.step] at h
    split at h
    · cases h
    · next frame down hdown =>
      cases h
      obtain ⟨msg, hmsg, htells⟩ := hi.wires.down frame (hdown ▸ List.mem_cons_self)
      rw [hmsg]
      rcases htells with ⟨hcid, hpushed⟩ | ⟨question, hcid, hasks, hanswered⟩
      · exact hi.hearPush hdown hmsg hcid hpushed
      · exact hi.hearAnswer hdown hmsg hcid hasks hanswered
  | upLost n =>
    cases h
    exact hi.lost (List.eraseIdx_sublist ..) (.refl _) (.refl _)
  | downLost n =>
    cases h
    exact hi.lost (.refl _) (.refl _) (List.eraseIdx_sublist ..)
  | unanswered n =>
    cases h
    exact hi.lost (.refl _) (List.eraseIdx_sublist ..) (.refl _)

end

/-- What the callbacks of requests have been given, by the closures of their operations. -/
def given (s : RtSession P) : List (Nat × RtResult) :=
  s.results.filterMap fun r => s.ops[r.1]?.map fun op => (r.1, answer op r.2)

/-- The server has read what the client has sent, and the client what the server has sent, each in
order.  A success callback is called once at most, with the data of a message that the server has
sent as the answer to the envelope of its own operation. -/
structure EndToEnd (s : RtSession P) : Prop where
  read : s.read.Sublist s.sent
  heard : s.heard.Sublist s.told
  results : ∀ q r, (q, r) ∈ s.given → ∃ op cid message, s.ops[q]? = some op ∧
    requestEnvelope cid op ∈ s.read ∧ (requestEnvelope cid op, message) ∈ s.answered ∧
    r = answer op { cid, message }
  once : (s.given.map Prod.fst).Nodup
  order : (s.results.map Prod.snd).Sublist s.told
  calls : ∀ d ∈ s.rt.deliveries, s.Justified d.2

theorem map_fst_given (s : RtSession P) : (s.given.map Prod.fst).Sublist (s.results.map Prod.fst) := by
  have hlist : ∀ l : List (Nat × Envelope), ((l.filterMap fun r =>
      s.ops[r.1]?.map fun op => (r.1, answer op r.2)).map Prod.fst).Sublist (l.map Prod.fst) := by
    intro l
    induction l with
    | nil => exact .refl _
    | cons r l ih =>
      cases hop : s.ops[r.1]? with
      | none =>
        rw [List.filterMap_cons_none (by rw [hop]; rfl), List.map_cons]
        exact ih.cons _
      | some op =>
        rw [List.filterMap_cons_some (by rw [hop]; rfl), List.map_cons, List.map_cons]
        exact ih.cons_cons _
  exact hlist s.results

/-- **End to end.** -/
theorem session_end_to_end {s : RtSession P}
    (h : Reach step (fun s a => idsBounded s a = true) {} s) : EndToEnd s := by
  have hi : s.Inv := h.invariant inv_init fun _ _ _ hi hb hs => hi.step hb hs
  refine ⟨(List.sublist_append_left ..).trans hi.logs.read,
    (List.sublist_append_left ..).trans hi.logs.heard, ?_, hi.calls.once.sublist (map_fst_given s),
    hi.calls.order.trans ((List.sublist_append_left ..).trans hi.logs.heard), hi.calls.justified⟩
  intro q r hr
  obtain ⟨⟨q', msg⟩, hmem, hr⟩ := List.mem_filterMap.1 hr
  obtain ⟨op, hop, he⟩ := Option.map_eq_some_iff.1 hr
  cases he
  obtain ⟨d, hd, hsuccess⟩ := List.mem_filterMap.1 hmem
  have hjustified := hi.calls.justified d hd
  obtain ⟨origin, call⟩ := d
  cases call with
  | success q' env =>
    obtain ⟨rfl, rfl⟩ := Prod.mk.inj (Option.some.inj hsuccess)
    obtain ⟨⟨op', hop', hanswered⟩, hcid⟩ := hjustified
    obtain rfl : op = op' := Option.some.inj (hop.symm.trans hop')
    refine ⟨op, env.cid, env.payload.message, hop, hi.logs.answered _ hanswered, hanswered, ?_⟩
    rw [← hcid]
  | error | listener => cases hsuccess

/-! ### A run

A request is sent, its answer is read, and a push is under way. -/

def echoRun : List RtSessionAction :=
  [.local_ .opened, .perform (.rpc "f" "") true true true, .arrives,
    .answers 0 ⟨.rpc, ({ id := "f" } : Api.Rpc)⟩, .pushes ⟨.status, {}⟩, .receives]

theorem session_end_to_end_echoRun :
    ∃ s : RtSession varintProtocol,
      exec step (fun s a => idsBounded s a = true) {} echoRun = some s ∧
        s.given.map Prod.fst = [0] ∧ EndToEnd s := by
  have h : (exec step (fun s a => idsBounded s a = true)
      ({} : RtSession varintProtocol) echoRun).map (fun s => s.given.map Prod.fst) =
        some [0] := by
    decide +kernel
  obtain ⟨s, hs, hgiven⟩ := Option.map_eq_some_iff.1 h
  exact ⟨s, hs, hgiven, session_end_to_end (Reach.of_exec echoRun hs)⟩

end RtSession

end NakamaCpp.RtApi
