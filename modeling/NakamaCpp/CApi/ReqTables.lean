import NakamaCpp.CApi.DefaultError

/-!
# The callback tables of the wrappers

`NClientWrapper` and `NRtClientWrapper` keep the callbacks of a request under its id: the error
callback in `_reqErrorCallbacks`, the success callback in the map of its type.  A completion
looks up one of the two, calls it, and erases that entry.

    clean : ids are not used twice at a time, no callback throws, and a request is completed the
            way it has a callback for and not the other
      →  every key belongs to a request that has not completed, and completing a request
         removes what there is of it and nothing else                        (tables_outstanding)

`getAccount` without an error callback has the C client call nothing on an error; as `reqError`
finds nothing then, this is the same here.
-/

namespace NakamaCpp.CApi

open CppStd Rest Transition

/-! ## Tables -/

/-- The success maps of `NClientWrapper`, by type. -/
inductive ClientMap
  | auth | empty | account | users | friendList | group | groupUserList | groupList
  | userGroupList | leaderboardRecordList | leaderboardRecord | matchList | rpc | storageObjects
  | storageObjectAcks | storageObjectList | tournamentRecordList | tournamentList
  | notificationList | channelMessageList
deriving DecidableEq, Repr

/-- Those of `NRtClientWrapper`. -/
inductive RtMap
  | empty | channel | channelMessageAck | match_ | matchmakerTicket | status | rpc
deriving DecidableEq, Repr

/-- The map that an operation keeps its success callback in. -/
def successMap : ClientOp → ClientMap
  | .authenticateDevice .. | .authenticateEmail .. | .authenticateFacebook .. => .auth
  | .authenticateGoogle .. | .authenticateGameCenter .. | .authenticateCustom .. => .auth
  | .authenticateSteam .. => .auth
  | .linkFacebook .. | .linkEmail .. | .linkDevice .. | .linkGoogle .. => .empty
  | .linkGameCenter .. | .linkSteam .. | .linkCustom .. | .unlinkFacebook .. => .empty
  | .unlinkEmail .. | .unlinkGoogle .. | .unlinkGameCenter .. | .unlinkSteam .. => .empty
  | .unlinkDevice .. | .unlinkCustom .. | .importFacebookFriends .. => .empty
  | .getAccount .. => .account
  | .updateAccount .. => .empty
  | .getUsers .. => .users
  | .addFriends .. | .deleteFriends .. | .blockFriends .. => .empty
  | .listFriends .. => .friendList
  | .createGroup .. => .group
  | .deleteGroup .. | .addGroupUsers .. | .kickGroupUsers .. | .promoteGroupUsers .. => .empty
  | .joinGroup .. | .leaveGroup .. | .updateGroup .. => .empty
  | .listGroupUsers .. => .groupUserList
  | .listGroups .. => .groupList
  | .listOwnGroups .. | .listUserGroups .. => .userGroupList
  | .listLeaderboardRecords .. | .listLeaderboardRecordsAroundOwner .. => .leaderboardRecordList
  | .writeLeaderboardRecord .. | .writeTournamentRecord .. => .leaderboardRecord
  | .deleteLeaderboardRecord .. => .empty
  | .listMatches .. => .matchList
  | .listNotifications .. => .notificationList
  | .deleteNotifications .. => .empty
  | .listChannelMessages .. => .channelMessageList
  | .listTournaments .. => .tournamentList
  | .listTournamentRecords .. | .listTournamentRecordsAroundOwner .. => .tournamentRecordList
  | .joinTournament .. => .empty
  | .listStorageObjects .. | .listUsersStorageObjects .. => .storageObjectList
  | .writeStorageObjects .. => .storageObjectAcks
  | .readStorageObjects .. => .storageObjects
  | .deleteStorageObjects .. => .empty
  | .rpc .. | .rpcWithKey .. => .rpc

/-- `sendMatchData` has no callbacks. -/
def RtOp.successMap : RtOp → Option RtMap
  | .joinChat .. => some .channel
  | .leaveChat .. => some .empty
  | .writeChatMessage .. | .updateChatMessage .. | .removeChatMessage .. => some .channelMessageAck
  | .createMatch | .joinMatch .. | .joinMatchByToken .. => some .match_
  | .leaveMatch .. => some .empty
  | .addMatchmaker .. => some .matchmakerTicket
  | .removeMatchmaker .. => some .empty
  | .sendMatchData .. => none
  | .followUsers .. => some .status
  | .unfollowUsers .. | .updateStatus .. => some .empty
  | .rpc .. => some .rpc

section
variable {ο κ : Type} [DecidableEq κ]

/-- All the maps of a wrapper, and `_curReqId`; a callback is known by its request. -/
structure ReqTables (κ : Type) where
  errors : ReqCallbacks := {}
  successCallbacks : κ → Std.ExtTreeMap UInt64 Nat := fun _ => ∅

namespace ReqTables

/-- The map of one type, or the error map. -/
def table (t : ReqTables κ) : Option κ → Std.ExtTreeMap UInt64 Nat
  | none => t.errors.reqErrorCallbacks
  | some kind => t.successCallbacks kind

/-- The id is a key of one of the maps. -/
def Key (t : ReqTables κ) (id : UInt64) : Prop := ∃ x, id ∈ t.table x

/-- The first lines of an operation: the tables afterwards and the request data. -/
def register (t : ReqTables κ) (kind : κ) (request : Nat) (successCallback errorCallback : Bool) :
    ReqTables κ × UInt64 :=
  let (errors, reqId) := t.errors.register request successCallback errorCallback
  ({ errors
     successCallbacks := fun k =>
      if successCallback && k == kind then (t.successCallbacks k).insertIfNew reqId request
      else t.successCallbacks k }, reqId)

/-- A handler: the request whose callback it finds in the map. -/
def dispatched (t : ReqTables κ) (x : Option κ) (reqData : UInt64) : Option Nat :=
  if reqData = 0 then none else (t.table x)[reqData]?

/-- A completion finds a callback. -/
def finds (t : ReqTables κ) (x : Option κ) (reqData : UInt64) : Bool :=
  (t.dispatched x reqData).isSome

/-- `erase(it)`. -/
def erase (t : ReqTables κ) (x : Option κ) (reqData : UInt64) : ReqTables κ :=
  match x with
  | none =>
    { t with errors.reqErrorCallbacks := t.errors.reqErrorCallbacks.erase reqData }
  | some kind =>
    { t with
      successCallbacks := fun k =>
        if k = kind then (t.successCallbacks k).erase reqData else t.successCallbacks k }

end ReqTables

/-! ## Requests and completions -/

structure WrapperRequest (κ : Type) where
  number : Nat
  id : UInt64
  kind : κ
  successCallback : Bool
  errorCallback : Bool
deriving DecidableEq, Repr

/-- The map in which a completion looks. -/
def WrapperRequest.lookedUp (r : WrapperRequest κ) (ok : Bool) : Option κ :=
  if ok then some r.kind else none

/-- The maps in which the request has an entry. -/
def WrapperRequest.covers (r : WrapperRequest κ) : Option κ → Bool
  | none => r.errorCallback
  | some kind => r.successCallback && kind == r.kind

structure WrapperState (κ : Type) where
  tables : ReqTables κ := {}
  /-- requests so far -/
  requests : Nat := 0
  /-- the requests that have not completed -/
  outstanding : List (WrapperRequest κ) := []
  /-- those of them whose callback is running, innermost first, and whether it is the success
  callback -/
  running : List (WrapperRequest κ × Bool) := []

inductive WrapperAction (ο : Type)
  | request (op : ο) (successCallback errorCallback : Bool)
  /-- the wrapped client completes a request with a success or an error -/
  | complete (number : Nat) (ok : Bool)
  /-- the innermost callback ends -/
  | returns
  | throws
deriving DecidableEq, Repr

namespace WrapperState

/-- A request that has completed. -/
def remove (s : WrapperState κ) (r : WrapperRequest κ) : WrapperState κ :=
  { s with outstanding := s.outstanding.filter fun r' => r'.number != r.number }

def step (mapOf : ο → Option κ) (s : WrapperState κ) : WrapperAction ο → Option (WrapperState κ)
  | .request op successCallback errorCallback =>
    match mapOf op with
    | none => some s
    | some kind =>
      let (tables, id) := s.tables.register kind s.requests successCallback errorCallback
      some { s with
        tables
        requests := s.requests + 1
        outstanding :=
          s.outstanding ++ [⟨s.requests, id, kind, successCallback, errorCallback⟩] }
  | .complete number ok =>
    match s.outstanding.find? fun r => r.number == number with
    | some r =>
      if s.running.any fun p => p.1.number == number then none
      else if s.tables.finds (r.lookedUp ok) r.id then some { s with running := (r, ok) :: s.running }
      else some (s.remove r)
    | none => none
  | .returns =>
    match s.running with
    | (r, ok) :: running =>
      some ({ s with tables := s.tables.erase (r.lookedUp ok) r.id, running }.remove r)
    | [] => none
  | .throws =>
    match s.running with
    | (r, _) :: running => some ({ s with running }.remove r)
    | [] => none

/-- The id of a new request is not that of one that has not completed, a request that succeeds
has no error callback, one that fails has no success callback, and no callback throws. -/
def clean (s : WrapperState κ) : WrapperAction ο → Bool
  | .request _ successCallback errorCallback =>
    !(successCallback || errorCallback) ||
      s.outstanding.all fun r => r.id != s.tables.errors.getNextReqId
  | .complete number ok =>
    s.outstanding.all fun r =>
      r.number != number || !(if ok then r.errorCallback else r.successCallback)
  | .returns => true
  | .throws => false

end WrapperState

/-! ## One operation on the tables -/

namespace ReqTables

variable {t : ReqTables κ}

theorem getNextReqId_ne_zero (c : ReqCallbacks) : c.getNextReqId ≠ 0 := by
  unfold ReqCallbacks.getNextReqId
  split
  · next h =>
    intro h2
    have : c.curReqId + 2 = c.curReqId + 1 + 1 := by rw [UInt64.add_assoc]; rfl
    rw [this, h] at h2
    cases h2
  · next h => exact h

/-- A new entry in each map that the request covers. -/
theorem table_register (kind : κ) (n : Nat) (successCallback errorCallback : Bool) (x : Option κ) :
    (t.register kind n successCallback errorCallback).1.table x =
      if WrapperRequest.covers
          ⟨n, (t.register kind n successCallback errorCallback).2, kind, successCallback,
            errorCallback⟩ x then
        (t.table x).insertIfNew (t.register kind n successCallback errorCallback).2 n
      else t.table x := by
  cases x with
  | none =>
    cases successCallback <;> cases errorCallback <;> rfl
  | some k => rfl

theorem register_id (kind : κ) (n : Nat) (successCallback errorCallback : Bool) :
    (t.register kind n successCallback errorCallback).2 =
      if successCallback || errorCallback then t.errors.getNextReqId else 0 := by
  cases successCallback <;> cases errorCallback <;> rfl

theorem table_erase (x y : Option κ) (id : UInt64) :
    (t.erase x id).table y = if y = x then (t.table y).erase id else t.table y := by
  cases x with
  | none =>
    cases y with
    | none => rfl
    | some k => rw [if_neg (by simp)]; rfl
  | some kind =>
    cases y with
    | none => rw [if_neg (by simp)]; rfl
    | some k => simp only [Option.some_inj]; rfl

end ReqTables

namespace WrapperState

/-- What there was of the request is gone, and all else is as it was. -/
structure Removed (t t' : ReqTables κ) (id : UInt64) : Prop where
  gone : ¬ t'.Key id
  others : ∀ id' ≠ id, ∀ x, (t'.table x)[id']? = (t.table x)[id']?

/-- What one step keeps. -/
structure Inv (s : WrapperState κ) : Prop where
  owned : ∀ x id, id ∈ s.tables.table x → ∃ r ∈ s.outstanding, r.id = id ∧ r.covers x = true
  nonzero : ∀ r ∈ s.outstanding, ∀ x, r.covers x = true → r.id ≠ 0
  unique : ∀ r ∈ s.outstanding, ∀ r' ∈ s.outstanding, r.id = r'.id → r.id ≠ 0 → r = r'
  numbered : ∀ r ∈ s.outstanding, r.number < s.requests
  numbers : ∀ r ∈ s.outstanding, ∀ r' ∈ s.outstanding, r.number = r'.number → r = r'
  running : ∀ p ∈ s.running, p.1 ∈ s.outstanding ∧ ∀ x, p.1.covers x = true → x = p.1.lookedUp p.2
  distinct : (s.running.map fun p => p.1.number).Nodup

theorem Inv.init : Inv ({} : WrapperState κ) where
  owned := by
    intro x id h
    cases x <;> exact absurd h Std.ExtTreeMap.not_mem_empty
  nonzero := by simp
  unique := by simp
  numbered := by simp
  numbers := by simp
  running := by simp
  distinct := by simp

/-- A request whose entry is in the one map that its completion looks in. -/
theorem Inv.covered {s : WrapperState κ} (hi : Inv s) {r : WrapperRequest κ}
    (hr : r ∈ s.outstanding) {x y : Option κ} (hx : ∀ y, r.covers y = true → y = x)
    (hy : r.id ∈ s.tables.table y) : y = x := by
  obtain ⟨r', hr', hid, hcovers⟩ := hi.owned y r.id hy
  have hne : r'.id ≠ 0 := hi.nonzero r' hr' y hcovers
  obtain rfl := hi.unique r' hr' r hr hid hne
  exact hx y hcovers

theorem Inv.removed_erase {s : WrapperState κ} (hi : Inv s) {r : WrapperRequest κ}
    (hr : r ∈ s.outstanding) {x : Option κ} (hx : ∀ y, r.covers y = true → y = x) :
    Removed s.tables (s.tables.erase x r.id) r.id := by
  constructor
  · rintro ⟨y, hy⟩
    rw [ReqTables.table_erase] at hy
    split at hy
    · exact (Std.ExtTreeMap.mem_erase.1 hy).1 Std.compare_self
    · next hne => exact hne (hi.covered hr hx hy)
  · intro id' hne y
    rw [ReqTables.table_erase]
    split
    · rw [Std.ExtTreeMap.getElem?_erase, if_neg]
      rw [Std.LawfulEqOrd.compare_eq_iff_eq]
      exact hne.symm
    · rfl

/-- A completion that finds no callback has nothing to remove. -/
theorem Inv.removed_none {s : WrapperState κ} (hi : Inv s) {r : WrapperRequest κ}
    (hr : r ∈ s.outstanding) {x : Option κ} (hx : ∀ y, r.covers y = true → y = x)
    (hfind : s.tables.finds x r.id = false) : Removed s.tables s.tables r.id := by
  refine ⟨?_, fun _ _ _ => rfl⟩
  rintro ⟨y, hy⟩
  obtain rfl := hi.covered hr hx hy
  obtain ⟨r', hr', hid, hcovers⟩ := hi.owned y r.id hy
  have hne : r.id ≠ 0 := hid ▸ hi.nonzero r' hr' y hcovers
  rw [ReqTables.finds, ReqTables.dispatched, if_neg hne,
    Std.ExtTreeMap.mem_iff_isSome_getElem?.1 hy] at hfind
  cases hfind

/-- The request has completed, and its entry is gone. -/
theorem Inv.remove {s : WrapperState κ} (hi : Inv s) {r : WrapperRequest κ}
    (hr : r ∈ s.outstanding) {tables : ReqTables κ} (ht : Removed s.tables tables r.id)
    {running : List (WrapperRequest κ × Bool)} (hsub : ∀ p ∈ running, p ∈ s.running)
    (hne : ∀ p ∈ running, p.1.number ≠ r.number)
    (hd : (running.map fun p => p.1.number).Nodup) :
    Inv ({ s with tables, running }.remove r) := by
  have hmem : ∀ r', r' ∈ (s.remove r).outstanding ↔ r' ∈ s.outstanding ∧ r'.number ≠ r.number := by
    intro r'
    simp only [WrapperState.remove, List.mem_filter, bne_iff_ne]
  refine ⟨fun x id hid => ?_, fun r' h => ?_, fun r₁ h₁ r₂ h₂ => ?_, fun r' h => ?_,
    fun r₁ h₁ r₂ h₂ => ?_, fun p hp => ?_, hd⟩
  · have hidne : id ≠ r.id := by
      rintro rfl
      exact ht.gone ⟨x, hid⟩
    have hold : id ∈ s.tables.table x := by
      rw [Std.ExtTreeMap.mem_iff_isSome_getElem?] at hid ⊢
      rwa [← ht.others id hidne x]
    obtain ⟨r', hr', he, hcovers⟩ := hi.owned x id hold
    refine ⟨r', (hmem r').2 ⟨hr', fun hn => ?_⟩, he, hcovers⟩
    rw [hi.numbers r' hr' r hr hn] at he
    exact hidne he.symm
  · exact hi.nonzero r' ((hmem r').1 h).1
  · exact hi.unique r₁ ((hmem r₁).1 h₁).1 r₂ ((hmem r₂).1 h₂).1
  · exact hi.numbered r' ((hmem r').1 h).1
  · exact hi.numbers r₁ ((hmem r₁).1 h₁).1 r₂ ((hmem r₂).1 h₂).1
  · obtain ⟨hout, hcovers⟩ := hi.running p (hsub p hp)
    exact ⟨(hmem p.1).2 ⟨hout, hne p hp⟩, hcovers⟩

/-- Elements that a key tells apart, and one more whose key is new. -/
theorem unique_concat {ρ β : Type} {l : List ρ} {r : ρ} (f : ρ → β) (P : β → Prop)
    (hl : ∀ x ∈ l, ∀ y ∈ l, f x = f y → P (f x) → x = y) (hr : P (f r) → ∀ x ∈ l, f x ≠ f r) :
    ∀ x ∈ l ++ [r], ∀ y ∈ l ++ [r], f x = f y → P (f x) → x = y := by
  intro x hx y hy he hp
  rcases List.mem_append.1 hx with hxl | hxr
  · rcases List.mem_append.1 hy with hyl | hyr
    · exact hl x hxl y hyl he hp
    · obtain rfl := List.mem_singleton.1 hyr
      exact absurd he (hr (he ▸ hp) x hxl)
  · obtain rfl := List.mem_singleton.1 hxr
    rcases List.mem_append.1 hy with hyl | hyr
    · exact absurd he.symm (hr hp y hyl)
    · exact (List.mem_singleton.1 hyr).symm

/-- A new request, whose id is free. -/
theorem Inv.request {s : WrapperState κ} (hi : Inv s) (kind : κ)
    (successCallback errorCallback : Bool)
    (hfree : successCallback || errorCallback →
      ∀ r ∈ s.outstanding, r.id ≠ s.tables.errors.getNextReqId) :
    Inv { s with
      tables := (s.tables.register kind s.requests successCallback errorCallback).1
      requests := s.requests + 1
      outstanding := s.outstanding ++
        [⟨s.requests, (s.tables.register kind s.requests successCallback errorCallback).2, kind,
          successCallback, errorCallback⟩] } := by
  generalize hr : (⟨s.requests, (s.tables.register kind s.requests successCallback errorCallback).2,
    kind, successCallback, errorCallback⟩ : WrapperRequest κ) = r
  have hid : r.id = if successCallback || errorCallback then s.tables.errors.getNextReqId else 0 := by
    rw [← hr, ← ReqTables.register_id]
  have hnew : r.number = s.requests := by rw [← hr]
  have hcovers : ∀ x, r.covers x = true → (successCallback || errorCallback) = true := by
    intro x hx
    rw [← hr] at hx
    cases x <;> simp [WrapperRequest.covers] at hx <;> simp [hx]
  have hfresh : r.id ≠ 0 → ∀ r' ∈ s.outstanding, r'.id ≠ r.id := by
    intro hne r' hr'
    rw [hid] at hne ⊢
    split
    · next hc => exact hfree hc r' hr'
    · next hc => exact absurd (if_neg hc) hne
  have hmem : ∀ r', r' ∈ s.outstanding ++ [r] ↔ r' ∈ s.outstanding ∨ r' = r := by simp
  refine ⟨fun x id h => ?_, fun r' h => ?_, fun r₁ h₁ r₂ h₂ => ?_, fun r' h => ?_,
    fun r₁ h₁ r₂ h₂ => ?_, fun p hp => ?_, hi.distinct⟩
  · simp only [ReqTables.table_register, hr] at h
    simp only [hmem]
    split at h
    · next hx =>
      rcases Std.ExtTreeMap.mem_insertIfNew.1 h with he | hold
      · refine ⟨r, .inr rfl, ?_, hx⟩
        rw [← hr]
        exact Std.LawfulEqOrd.compare_eq_iff_eq.1 he
      · obtain ⟨r', hr', he⟩ := hi.owned x id hold
        exact ⟨r', .inl hr', he⟩
    · obtain ⟨r', hr', he⟩ := hi.owned x id h
      exact ⟨r', .inl hr', he⟩
  · rcases (hmem r').1 h with h | rfl
    · exact hi.nonzero r' h
    · intro x hx
      rw [hid, if_pos (hcovers x hx)]
      exact ReqTables.getNextReqId_ne_zero _
  · exact unique_concat WrapperRequest.id (· ≠ 0) hi.unique hfresh r₁ h₁ r₂ h₂
  · rcases (hmem r').1 h with h | rfl
    · exact Nat.lt_succ_of_lt (hi.numbered r' h)
    · exact hnew ▸ Nat.lt_succ_self _
  · have hold : ∀ x ∈ s.outstanding, ∀ y ∈ s.outstanding, x.number = y.number → True → x = y :=
      fun x hx y hy he _ => hi.numbers x hx y hy he
    have hlast : ∀ x ∈ s.outstanding, x.number ≠ r.number := fun x hx =>
      hnew ▸ Nat.ne_of_lt (hi.numbered x hx)
    intro he
    exact unique_concat WrapperRequest.number (fun _ => True) hold (fun _ => hlast) r₁ h₁ r₂ h₂ he
      trivial
  · obtain ⟨hout, hcov⟩ := hi.running p hp
    exact ⟨(hmem p.1).2 (.inl hout), hcov⟩

/-- The innermost callback, and those around it. -/
theorem Inv.innermost {s : WrapperState κ} (hi : Inv s) {r : WrapperRequest κ} {ok : Bool}
    {running : List (WrapperRequest κ × Bool)} (h : s.running = (r, ok) :: running) :
    (∀ p ∈ running, p ∈ s.running) ∧ (∀ p ∈ running, p.1.number ≠ r.number) ∧
      (running.map fun p => p.1.number).Nodup := by
  have hd := hi.distinct
  rw [h, List.map_cons, List.nodup_cons] at hd
  refine ⟨fun p hp => h ▸ List.mem_cons_of_mem _ hp, fun p hp he => hd.1 ?_, hd.2⟩
  rw [← he]
  exact List.mem_map_of_mem hp

/-- A request that is completed cleanly has no entry but in the map that is looked in. -/
theorem covers_of_clean {s : WrapperState κ} {number : Nat} {ok : Bool}
    (hok : s.clean (.complete number ok : WrapperAction ο) = true) {r : WrapperRequest κ}
    (hr : r ∈ s.outstanding) (hn : r.number = number) :
    ∀ x, r.covers x = true → x = r.lookedUp ok := by
  have hc := List.all_eq_true.1 hok r hr
  simp only [hn, bne_self_eq_false, Bool.false_or, Bool.not_eq_true'] at hc
  intro x hx
  cases ok with
  | true =>
    cases x with
    | none => exact absurd hx (by simpa [WrapperRequest.covers] using hc)
    | some k =>
      simp only [WrapperRequest.covers, Bool.and_eq_true, beq_iff_eq] at hx
      simp [WrapperRequest.lookedUp, hx.2]
  | false =>
    cases x with
    | none => rfl
    | some k =>
      simp only [WrapperRequest.covers, Bool.and_eq_true] at hx
      exact absurd hx.1 (by simpa using hc)

variable {mapOf : ο → Option κ}

/-- What a step does to the invariant and, if a request has completed, to the tables. -/
theorem Inv.step {s s' : WrapperState κ} {a : WrapperAction ο} (hi : Inv s)
    (hok : s.clean a = true) (h : s.step mapOf a = some s') :
    Inv s' ∧ ∀ r ∈ s.outstanding, r ∉ s'.outstanding → Removed s.tables s'.tables r.id := by
  have hremove : ∀ {r r' : WrapperRequest κ} {s₁ : WrapperState κ},
      s₁.outstanding = s.outstanding → r ∈ s.outstanding → r' ∈ s.outstanding →
      r' ∉ (s₁.remove r).outstanding → r' = r := by
    intro r r' s₁ hs hr hr' hnot
    refine hi.numbers r' hr' r hr ?_
    by_contra hne
    exact hnot (List.mem_filter.2 ⟨hs ▸ hr', bne_iff_ne.2 hne⟩)
  cases a with
  | request op successCallback errorCallback =>
    simp only [WrapperState.step] at h
    split at h <;> cases h
    · exact ⟨hi, fun r hr hnot => absurd hr hnot⟩
    · next kind hk =>
      refine ⟨hi.request kind successCallback errorCallback fun hc r hr => ?_,
        fun r hr hnot => absurd (List.mem_append_left _ hr) hnot⟩
      simp only [clean, hc, Bool.not_true, Bool.false_or, List.all_eq_true, bne_iff_ne] at hok
      exact hok r hr
  | complete number ok =>
    simp only [WrapperState.step] at h
    split at h
    · next r hfind =>
      have hr : r ∈ s.outstanding := List.mem_of_find?_eq_some hfind
      have hn : r.number = number := by simpa using List.find?_some hfind
      have hcovers := covers_of_clean hok hr hn
      split at h
      · cases h
      · next hnot =>
        have hout : ∀ p ∈ s.running, p.1.number ≠ r.number := by
          intro p hp he
          exact hnot (List.any_eq_true.2 ⟨p, hp, by simp [he, hn]⟩)
        split at h <;> cases h
        · -- the callback starts; nothing has completed
          refine ⟨⟨hi.owned, hi.nonzero, hi.unique, hi.numbered, hi.numbers, fun p hp => ?_, ?_⟩,
            fun r hr hnot => absurd hr hnot⟩
          · rcases List.mem_cons.1 hp with rfl | hp
            · exact ⟨hr, hcovers⟩
            · exact hi.running p hp
          · refine List.nodup_cons.2 ⟨fun hm => ?_, hi.distinct⟩
            obtain ⟨p, hp, he⟩ := List.mem_map.1 hm
            exact hout p hp he
        · next hfinds =>
          have hgone := hi.removed_none hr hcovers (Bool.eq_false_iff.2 hfinds)
          refine ⟨hi.remove hr hgone (fun p hp => hp) hout hi.distinct, fun r' hr' hnot => ?_⟩
          rw [hremove rfl hr hr' hnot]
          exact hgone
    · cases h
  | returns =>
    simp only [WrapperState.step] at h
    split at h <;> cases h
    next r ok running hrun =>
    obtain ⟨hr, hcovers⟩ := hi.running (r, ok) (hrun ▸ List.mem_cons_self)
    obtain ⟨hsub, hne, hd⟩ := hi.innermost hrun
    have hgone := hi.removed_erase hr hcovers
    refine ⟨hi.remove hr hgone hsub hne hd, fun r' hr' hnot => ?_⟩
    rw [hremove rfl hr hr' hnot]
    exact hgone
  | throws => cases hok

/-! ## Runs -/

/-- Every key belongs to a request that has not completed, and a step that completes a request
removes its entries and no other. -/
structure TablesOutstanding (mapOf : ο → Option κ) (s : WrapperState κ) : Prop where
  keys : ∀ id, s.tables.Key id → ∃ r ∈ s.outstanding, r.id = id
  completes : ∀ (a : WrapperAction ο) (s' : WrapperState κ), s.clean a = true →
    s.step mapOf a = some s' →
    ∀ r ∈ s.outstanding, r ∉ s'.outstanding → Removed s.tables s'.tables r.id

theorem outstanding_of_reach {s : WrapperState κ}
    (h : Reach (step mapOf) (fun s a => clean s a = true) {} s) : TablesOutstanding mapOf s := by
  have hi : Inv s := h.invariant .init fun _ _ _ hi hok hs => (hi.step hok hs).1
  refine ⟨fun id hid => ?_, fun a s' hok hs => (hi.step hok hs).2⟩
  obtain ⟨x, hx⟩ := hid
  obtain ⟨r, hr, he, -⟩ := hi.owned x id hx
  exact ⟨r, hr, he⟩

end WrapperState

end

namespace WrapperState

/-- **Callback tables.**  In every run of either wrapper in which a request is completed only the
way it has a callback for, no callback throws and no id is given twice at a time, the tables
hold outstanding requests only. -/
theorem tables_outstanding (client : WrapperState ClientMap) (rt : WrapperState RtMap) :
    (Reach (step fun op => some (successMap op)) (fun s a => clean s a = true) {} client →
      TablesOutstanding (fun op => some (successMap op)) client) ∧
    (Reach (step RtOp.successMap) (fun s a => clean s a = true) {} rt →
      TablesOutstanding RtOp.successMap rt) :=
  ⟨outstanding_of_reach, outstanding_of_reach⟩

/-- A request with a success callback succeeds, while one with an error callback is on its way. -/
theorem tables_outstanding_two :
    ∃ s, exec (step fun op => some (successMap op)) (fun s a => clean s a = true) {}
        [.request (.authenticateDevice "device" none none ∅) true false,
          .request (.joinGroup ⟨"token", "user"⟩ "group") false true, .complete 0 true] = some s ∧
      s.tables.Key 1 ∧ s.tables.Key 2 ∧ TablesOutstanding (fun op => some (successMap op)) s := by
  have h : (exec (step fun op => some (successMap op)) (fun s a => clean s a = true) {}
      [.request (.authenticateDevice "device" none none ∅) true false,
        .request (.joinGroup ⟨"token", "user"⟩ "group") false true, .complete 0 true]).isSome = true :=
    by decide
  exact ⟨_, (Option.some_get h).symm, ⟨some .auth, Std.ExtTreeMap.contains_iff_mem.1 rfl⟩,
    ⟨none, Std.ExtTreeMap.contains_iff_mem.1 rfl⟩,
    (tables_outstanding _ {}).1 (Reach.get_exec _ h)⟩

/-- With both callbacks, a success leaves the entry of the error map and an error that of the
success map, although nothing is outstanding. -/
theorem not_tables_outstanding :
    (∃ s : WrapperState ClientMap, Reach (step fun op => some (successMap op)) anyStep {} s ∧
      (1 : UInt64) ∈ s.tables.table none ∧ s.outstanding = []) ∧
    (∃ s : WrapperState ClientMap, Reach (step fun op => some (successMap op)) anyStep {} s ∧
      (1 : UInt64) ∈ s.tables.table (some .auth) ∧ s.outstanding = []) ∧
    (∃ s : WrapperState RtMap, Reach (step RtOp.successMap) anyStep {} s ∧
      (1 : UInt64) ∈ s.tables.table none ∧ s.outstanding = []) ∧
    ∃ s : WrapperState RtMap, Reach (step RtOp.successMap) anyStep {} s ∧
      (1 : UInt64) ∈ s.tables.table (some .match_) ∧ s.outstanding = [] := by
  have hc (ok : Bool) : (exec (step fun op => some (successMap op)) anyStep {}
      [.request (.authenticateDevice "device" none none ∅) true true, .complete 0 ok,
        .returns]).isSome = true := by
    cases ok <;> decide
  have hrt (ok : Bool) : (exec (step RtOp.successMap) anyStep {}
      [.request .createMatch true true, .complete 0 ok, .returns]).isSome = true := by
    cases ok <;> decide
  exact ⟨⟨_, Reach.get_exec _ (hc true), Std.ExtTreeMap.contains_iff_mem.1 rfl, rfl⟩,
    ⟨_, Reach.get_exec _ (hc false), Std.ExtTreeMap.contains_iff_mem.1 rfl, rfl⟩,
    ⟨_, Reach.get_exec _ (hrt true), Std.ExtTreeMap.contains_iff_mem.1 rfl, rfl⟩,
    ⟨_, Reach.get_exec _ (hrt false), Std.ExtTreeMap.contains_iff_mem.1 rfl, rfl⟩⟩

end WrapperState

end NakamaCpp.CApi
