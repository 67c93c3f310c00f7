import NakamaCpp.CApi.ReqTables

/-!
# The ids of the requests of `NClientWrapper`

A request with a callback draws the next id, which goes through the C interface as a pointer and
comes back with the completion; the static handler that the operation has passed looks it up in
one map.  The ids go round through all the values but null.

    fewer ids than there are non-null values are drawn while an entry is there
      →  the next id is no key of any map, and every completion calls the callback of its own
         request, which it finds in the map of its type                      (ids_correlate)
-/

namespace NakamaCpp.CApi

open CppStd Rest Transition

/-! ## Ids -/

/-- The number of values of `uintptr_t` that are not null. -/
def idCount : Nat := 2 ^ 64 - 1

/-- The id that is drawn after `k` others. -/
def idAt (k : Nat) : UInt64 := .ofNat (k % idCount + 1)

theorem toNat_idAt (k : Nat) : (idAt k).toNat = k % idCount + 1 := by
  have hlt : k % idCount + 1 < 2 ^ 64 := by
    unfold idCount
    omega
  rw [idAt, UInt64.toNat_ofNat', Nat.mod_eq_of_lt hlt]

theorem idAt_ne_zero (k : Nat) : idAt k ≠ 0 := by
  intro h
  have := congrArg UInt64.toNat h
  rw [toNat_idAt] at this
  exact absurd this (Nat.succ_ne_zero _)

/-- Ids that are drawn close enough to each other differ. -/
theorem idAt_ne {j k : Nat} (hlt : j < k) (hnear : k - j < idCount) : idAt k ≠ idAt j := by
  intro h
  have := congrArg UInt64.toNat h
  rw [toNat_idAt, toNat_idAt] at this
  unfold idCount at this hnear
  omega

/-- `getNextReqId` after the id that was drawn after `k` others. -/
theorem getNextReqId_idAt {c : ReqCallbacks} {k : Nat} (h : c.curReqId = idAt k) :
    c.getNextReqId = idAt (k + 1) := by
  have hk := toNat_idAt k
  have hk' := toNat_idAt (k + 1)
  have hsucc : (c.curReqId + 1).toNat = (k % idCount + 2) % 2 ^ 64 := by
    rw [UInt64.toNat_add, h, hk]
    rfl
  have hsucc' : (c.curReqId + 2).toNat = (k % idCount + 3) % 2 ^ 64 := by
    rw [UInt64.toNat_add, h, hk]
    rfl
  unfold idCount at hk' hsucc hsucc'
  rw [← UInt64.toNat_inj, hk', ReqCallbacks.getNextReqId]
  split
  · next hzero =>
    rw [hzero] at hsucc
    have hsucc : 0 = (k % (2 ^ 64 - 1) + 2) % 2 ^ 64 := hsucc
    rw [hsucc']
    omega
  · next hne =>
    have hne : (c.curReqId + 1).toNat ≠ 0 := fun h => hne (UInt64.toNat_inj.1 h)
    rw [hsucc] at hne ⊢
    omega

/-! ## Handlers -/

/-- The static handlers that the operations of `NClientWrapper` pass for a success. -/
inductive OkHandler
  | authenticateOkStatic | reqOkEmptyStatic | reqOkAccountStatic | reqOkUsersStatic
  | reqOkFriendListStatic | reqOkGroupStatic | reqOkGroupUserListStatic | reqOkGroupListStatic
  | reqOkUserGroupListStatic | reqOkLeaderboardRecordListStatic | reqOkLeaderboardRecordStatic
  | reqOkMatchListStatic | reqOkNotificationListStatic | reqOkChannelMessageListStatic
  | reqOkTournamentListStatic | reqOkTournamentRecordListStatic | reqOkStorageObjectListStatic
  | reqOkStorageObjectAcksStatic | reqOkStorageObjectsStatic | reqOkRpcStatic
deriving DecidableEq, Repr

/-- The map that the handler looks in. -/
def OkHandler.map : OkHandler → ClientMap
  | .authenticateOkStatic => .auth
  | .reqOkEmptyStatic => .empty
  | .reqOkAccountStatic => .account
  | .reqOkUsersStatic => .users
  | .reqOkFriendListStatic => .friendList
  | .reqOkGroupStatic => .group
  | .reqOkGroupUserListStatic => .groupUserList
  | .reqOkGroupListStatic => .groupList
  | .reqOkUserGroupListStatic => .userGroupList
  | .reqOkLeaderboardRecordListStatic => .leaderboardRecordList
  | .reqOkLeaderboardRecordStatic => .leaderboardRecord
  | .reqOkMatchListStatic => .matchList
  | .reqOkNotificationListStatic => .notificationList
  | .reqOkChannelMessageListStatic => .channelMessageList
  | .reqOkTournamentListStatic => .tournamentList
  | .reqOkTournamentRecordListStatic => .tournamentRecordList
  | .reqOkStorageObjectListStatic => .storageObjectList
  | .reqOkStorageObjectAcksStatic => .storageObjectAcks
  | .reqOkStorageObjectsStatic => .storageObjects
  | .reqOkRpcStatic => .rpc

/-- The handler that an operation passes. -/
def okHandler : ClientOp → OkHandler
  | .authenticateDevice .. | .authenticateEmail .. => .authenticateOkStatic
  | .authenticateFacebook .. | .authenticateGoogle .. => .authenticateOkStatic
  | .authenticateGameCenter .. | .authenticateCustom .. => .authenticateOkStatic
  | .authenticateSteam .. => .authenticateOkStatic
  | .linkFacebook .. | .linkEmail .. | .linkDevice .. | .linkGoogle .. => .reqOkEmptyStatic
  | .linkGameCenter .. | .linkSteam .. | .linkCustom .. => .reqOkEmptyStatic
  | .unlinkFacebook .. | .unlinkEmail .. | .unlinkGoogle .. => .reqOkEmptyStatic
  | .unlinkGameCenter .. | .unlinkSteam .. | .unlinkDevice .. => .reqOkEmptyStatic
  | .unlinkCustom .. | .importFacebookFriends .. => .reqOkEmptyStatic
  | .getAccount .. => .reqOkAccountStatic
  | .updateAccount .. => .reqOkEmptyStatic
  | .getUsers .. => .reqOkUsersStatic
  | .addFriends .. | .deleteFriends .. | .blockFriends .. => .reqOkEmptyStatic
  | .listFriends .. => .reqOkFriendListStatic
  | .createGroup .. => .reqOkGroupStatic
  | .deleteGroup .. | .addGroupUsers .. | .kickGroupUsers .. => .reqOkEmptyStatic
  | .promoteGroupUsers .. | .joinGroup .. | .leaveGroup .. => .reqOkEmptyStatic
  | .updateGroup .. => .reqOkEmptyStatic
  | .listGroupUsers .. => .reqOkGroupUserListStatic
  | .listGroups .. => .reqOkGroupListStatic
  | .listOwnGroups .. | .listUserGroups .. => .reqOkUserGroupListStatic
  | .listLeaderboardRecords .. => .reqOkLeaderboardRecordListStatic
  | .listLeaderboardRecordsAroundOwner .. => .reqOkLeaderboardRecordListStatic
  | .writeLeaderboardRecord .. | .writeTournamentRecord .. => .reqOkLeaderboardRecordStatic
  | .deleteLeaderboardRecord .. => .reqOkEmptyStatic
  | .listMatches .. => .reqOkMatchListStatic
  | .listNotifications .. => .reqOkNotificationListStatic
  | .deleteNotifications .. => .reqOkEmptyStatic
  | .listChannelMessages .. => .reqOkChannelMessageListStatic
  | .listTournaments .. => .reqOkTournamentListStatic
  | .listTournamentRecords .. => .reqOkTournamentRecordListStatic
  | .listTournamentRecordsAroundOwner .. => .reqOkTournamentRecordListStatic
  | .joinTournament .. => .reqOkEmptyStatic
  | .listStorageObjects .. | .listUsersStorageObjects .. => .reqOkStorageObjectListStatic
  | .writeStorageObjects .. => .reqOkStorageObjectAcksStatic
  | .readStorageObjects .. => .reqOkStorageObjectsStatic
  | .deleteStorageObjects .. => .reqOkEmptyStatic
  | .rpc .. | .rpcWithKey .. => .reqOkRpcStatic

/-- The handler looks in the map that the operation has put the callback in. -/
theorem okHandler_map (op : ClientOp) : (okHandler op).map = successMap op := by
  cases op <;> rfl

/-- The map that a completion looks in, with `reqErrorStatic` for an error. -/
def handlerTable (op : ClientOp) (ok : Bool) : Option ClientMap :=
  if ok then some (okHandler op).map else none

/-! ## Runs -/

/-- A request that has been made. -/
structure Asked where
  op : ClientOp
  successCallback : Bool
  errorCallback : Bool

/-- It has drawn an id. -/
def Asked.draws (a : Asked) : Bool := a.successCallback || a.errorCallback

/-- The callback of a completion. -/
def Asked.callback (a : Asked) (ok : Bool) : Bool :=
  if ok then a.successCallback else a.errorCallback

/-- A callback that has been called. -/
structure Dispatched where
  /-- the request that has completed, and how -/
  number : Nat
  ok : Bool
  /-- what its handler got, and where it looked -/
  reqData : UInt64
  table : Option ClientMap
  /-- the request whose callback was there -/
  callee : Nat
deriving DecidableEq, Repr

/-- A wrapper, the requests that it has made, by their numbers, and the callbacks that it has
called, oldest first. -/
structure IdState where
  wrapper : WrapperState ClientMap := {}
  asked : List Asked := []
  called : List Dispatched := []

namespace IdState

/-- The completion of a request: the handler that its operation has passed gets the id, and calls
the callback that it finds. -/
def complete (s : IdState) (r : WrapperRequest ClientMap) (a : Asked) (ok : Bool) : IdState :=
  match s.wrapper.tables.dispatched (handlerTable a.op ok) r.id with
  | some callee =>
    { s with
      wrapper := { s.wrapper with running := (r, ok) :: s.wrapper.running }
      called := s.called ++ [⟨r.number, ok, r.id, handlerTable a.op ok, callee⟩] }
  | none => { s with wrapper := s.wrapper.remove r }

def step (s : IdState) (a : WrapperAction ClientOp) : Option IdState :=
  match a with
  | .request op successCallback errorCallback =>
    (s.wrapper.step (fun op => some (successMap op)) a).map fun wrapper =>
      { s with wrapper, asked := s.asked ++ [⟨op, successCallback, errorCallback⟩] }
  | .complete number ok =>
    match s.wrapper.outstanding.find? fun r => r.number == number, s.asked[number]? with
    | some r, some a =>
      if s.wrapper.running.any fun p => p.1.number == number then none
      else some (s.complete r a ok)
    | _, _ => none
  | _ => (s.wrapper.step (fun op => some (successMap op)) a).map fun wrapper => { s with wrapper }

/-- The number of ids that have been drawn. -/
def issued (s : IdState) : Nat := s.asked.countP Asked.draws

/-- The number of ids that were drawn before request `n`. -/
def issuedBefore (s : IdState) (n : Nat) : Nat := (s.asked.take n).countP Asked.draws

/-- The number of ids that have been drawn after request `n`. -/
def issuedSince (s : IdState) (n : Nat) : Nat := (s.asked.drop (n + 1)).countP Asked.draws

/-- With the id that is drawn next, fewer ids than there are have been drawn after that of any
entry. -/
def FewIds (s : IdState) : Prop :=
  ∀ (x : Option ClientMap) (id : UInt64) (n : Nat),
    (s.wrapper.tables.table x)[id]? = some n → s.issuedSince n + 1 < idCount

/-- An id is drawn only while there are few. -/
def fewIds (s : IdState) : WrapperAction ClientOp → Prop
  | .request _ successCallback errorCallback => successCallback || errorCallback → s.FewIds
  | _ => True

/-- The callback was that of the request that has completed, which had been given the id, in the
map of its type. -/
def Own (s : IdState) (c : Dispatched) : Prop :=
  c.callee = c.number ∧ ∃ a, s.asked[c.number]? = some a ∧ a.callback c.ok = true ∧
    c.reqData = idAt (s.issuedBefore c.number) ∧ c.table = handlerTable a.op c.ok

/-- What one step keeps. -/
structure Inv (s : IdState) : Prop where
  next : s.wrapper.tables.errors.getNextReqId = idAt s.issued
  requests : s.wrapper.requests = s.asked.length
  entries : ∀ (x : Option ClientMap) (id : UInt64) (n : Nat),
    (s.wrapper.tables.table x)[id]? = some n →
      ∃ a, s.asked[n]? = some a ∧ a.draws = true ∧ id = idAt (s.issuedBefore n)
  ids : ∀ r ∈ s.wrapper.outstanding, ∃ a, s.asked[r.number]? = some a ∧
    r = ⟨r.number, if a.draws then idAt (s.issuedBefore r.number) else 0, successMap a.op,
      a.successCallback, a.errorCallback⟩
  own : ∀ r ∈ s.wrapper.outstanding, ∀ x,
    (s.wrapper.tables.table x)[r.id]? = if r.covers x then some r.number else none
  running : ∀ p ∈ s.wrapper.running, p.1 ∈ s.wrapper.outstanding
  distinct : (s.wrapper.running.map fun p => p.1.number).Nodup
  called : ∀ c ∈ s.called, s.Own c
  once : (s.called.map Dispatched.number).Nodup
  /-- a request whose callback has been called and that has not completed is in it -/
  inside : ∀ c ∈ s.called, ∀ r ∈ s.wrapper.outstanding, r.number = c.number →
    ∃ p ∈ s.wrapper.running, p.1.number = r.number

theorem Inv.init : Inv {} where
  next := rfl
  requests := rfl
  entries := by
    intro x id n h
    cases x <;> simp [ReqTables.table] at h
  ids := by simp
  own := by simp
  running := by simp
  distinct := by simp
  called := by simp
  once := by simp
  inside := by simp

/-! ### The next id -/

/-- The ids that have been drawn, counted around one of them. -/
theorem issued_eq {s : IdState} {n : Nat} {a : Asked} (ha : s.asked[n]? = some a)
    (hd : a.draws = true) : s.issued = s.issuedBefore n + (s.issuedSince n + 1) := by
  obtain ⟨hn, rfl⟩ := List.getElem?_eq_some_iff.1 ha
  have hsplit : s.asked = s.asked.take n ++ s.asked[n] :: s.asked.drop (n + 1) := by
    rw [← List.drop_eq_getElem_cons hn, List.take_append_drop]
  rw [issued, issuedBefore, issuedSince]
  conv_lhs => rw [hsplit]
  rw [List.countP_append, List.countP_cons_of_pos hd]

/-- With few ids the next one is no key. -/
theorem Inv.fresh {s : IdState} (hi : Inv s) (hfew : s.FewIds) (x : Option ClientMap) :
    (s.wrapper.tables.table x)[s.wrapper.tables.errors.getNextReqId]? = none := by
  rw [hi.next]
  by_contra hne
  obtain ⟨n, hn⟩ := Option.ne_none_iff_exists'.1 hne
  obtain ⟨a, ha, hd, hid⟩ := hi.entries x _ n hn
  have hcount := issued_eq ha hd
  have hnear := hfew x _ n hn
  exact idAt_ne (by omega) (by omega) hid

theorem Inv.not_key_zero {s : IdState} (hi : Inv s) (x : Option ClientMap) :
    (s.wrapper.tables.table x)[(0 : UInt64)]? = none := by
  by_contra hne
  obtain ⟨n, hn⟩ := Option.ne_none_iff_exists'.1 hne
  obtain ⟨a, -, -, hid⟩ := hi.entries x _ n hn
  exact idAt_ne_zero _ hid.symm

/-! ### One step -/

/-- The request as the tables have it. -/
def newRequest (s : IdState) (a : Asked) : WrapperRequest ClientMap where
  number := s.wrapper.requests
  id := (s.wrapper.tables.register (successMap a.op) s.wrapper.requests a.successCallback
    a.errorCallback).2
  kind := successMap a.op
  successCallback := a.successCallback
  errorCallback := a.errorCallback

/-- The state after a request. -/
def request (s : IdState) (a : Asked) : IdState where
  wrapper :=
    { s.wrapper with
      tables := (s.wrapper.tables.register (successMap a.op) s.wrapper.requests
        a.successCallback a.errorCallback).1
      requests := s.wrapper.requests + 1
      outstanding := s.wrapper.outstanding ++ [s.newRequest a] }
  asked := s.asked ++ [a]
  called := s.called

theorem request_asked {s : IdState} {a b : Asked} {n : Nat} (h : s.asked[n]? = some b) :
    (s.request a).asked[n]? = some b := by
  obtain ⟨hn, -⟩ := List.getElem?_eq_some_iff.1 h
  rw [request, List.getElem?_append_left hn, h]

theorem request_issuedBefore {s : IdState} {a : Asked} {n : Nat} (h : n ≤ s.asked.length) :
    (s.request a).issuedBefore n = s.issuedBefore n := by
  rw [issuedBefore, request, List.take_append_of_le_length h]
  rfl

theorem issuedBefore_length (s : IdState) : s.issuedBefore s.asked.length = s.issued := by
  rw [issuedBefore, List.take_length]
  rfl

/-- The id of a new request. -/
theorem Inv.newRequest_id {s : IdState} (hi : Inv s) (a : Asked) :
    (s.newRequest a).id = if a.draws then idAt s.issued else 0 := by
  rw [newRequest, ReqTables.register_id, hi.next]
  rfl

/-- A request has an entry only if it has drawn an id. -/
theorem draws_of_covers {s : IdState} {a : Asked} {x : Option ClientMap}
    (h : (s.newRequest a).covers x = true) : a.draws = true := by
  cases x with
  | none => exact Bool.or_eq_true_iff.2 (.inr h)
  | some kind => exact Bool.or_eq_true_iff.2 (.inl (Bool.and_eq_true_iff.1 h).1)

/-- The id that comes next is not that of a request that has not completed: such a request has an
entry, or has no id. -/
theorem Inv.id_ne_next {s : IdState} (hi : Inv s) (hfew : s.FewIds) {r : WrapperRequest ClientMap}
    (hr : r ∈ s.wrapper.outstanding) : r.id ≠ s.wrapper.tables.errors.getNextReqId := by
  have hentry : ∀ x, r.covers x = true → r.id ≠ s.wrapper.tables.errors.getNextReqId := by
    intro x hx he
    have hown := hi.own r hr x
    rw [if_pos hx, he, hi.fresh hfew x] at hown
    cases hown
  obtain ⟨a, -, he⟩ := hi.ids r hr
  by_cases hsuccess : a.successCallback = true
  · refine hentry (some r.kind) ?_
    rw [he]
    exact Bool.and_eq_true_iff.2 ⟨hsuccess, beq_self_eq_true _⟩
  · by_cases herror : a.errorCallback = true
    · refine hentry none ?_
      rw [he]
      exact herror
    · have hd : ¬ a.draws = true := by simp [Asked.draws, hsuccess, herror]
      have hid : r.id = 0 := by
        rw [he]
        exact if_neg hd
      rw [hid]
      exact (ReqTables.getNextReqId_ne_zero _).symm

theorem Inv.request_next {s : IdState} (hi : Inv s) (a : Asked) :
    (s.request a).wrapper.tables.errors.getNextReqId = idAt (s.request a).issued := by
  have hissued : (s.request a).issued = s.issued + if a.draws then 1 else 0 := by
    rw [issued, request, List.countP_append, List.countP_singleton]
    rfl
  have hregister : (s.request a).wrapper.tables.errors =
      (s.wrapper.tables.errors.register s.wrapper.requests a.successCallback a.errorCallback).1 :=
    rfl
  rw [hissued, hregister, ReqCallbacks.register]
  by_cases hd : a.draws = true
  · have hor : (a.successCallback || a.errorCallback) = true := hd
    rw [if_pos hd, if_pos hor]
    exact getNextReqId_idAt hi.next
  · have hor : ¬ (a.successCallback || a.errorCallback) = true := hd
    rw [if_neg hd, if_neg hor]
    exact hi.next

/-- Every `emplace` of a request inserts, and nothing else is inserted. -/
theorem Inv.request_table {s : IdState} (hi : Inv s) {a : Asked} (hfew : a.draws → s.FewIds)
    (x : Option ClientMap) (id : UInt64) :
    ((s.request a).wrapper.tables.table x)[id]? =
      if (s.newRequest a).covers x ∧ id = (s.newRequest a).id then some s.wrapper.requests
      else (s.wrapper.tables.table x)[id]? := by
  have hregister := ReqTables.table_register (t := s.wrapper.tables) (successMap a.op)
    s.wrapper.requests a.successCallback a.errorCallback x
  have htable : (s.request a).wrapper.tables.table x =
      if (s.newRequest a).covers x then
        (s.wrapper.tables.table x).insertIfNew (s.newRequest a).id s.wrapper.requests
      else s.wrapper.tables.table x := hregister
  rw [htable]
  by_cases hc : (s.newRequest a).covers x = true
  · have hd := draws_of_covers hc
    have hnone : (s.newRequest a).id ∉ s.wrapper.tables.table x := by
      rw [Std.ExtTreeMap.mem_iff_isSome_getElem?, hi.newRequest_id, if_pos hd, ← hi.next,
        hi.fresh (hfew hd)]
      exact Bool.false_ne_true
    rw [if_pos hc, Std.ExtTreeMap.getElem?_insertIfNew]
    simp only [Std.LawfulEqOrd.compare_eq_iff_eq, hc, hnone, not_false_iff, and_true, true_and,
      eq_comm (a := id)]
  · rw [if_neg hc, if_neg fun h => hc h.1]

/-- A new request. -/
theorem Inv.request {s : IdState} (hi : Inv s) {a : Asked} (hfew : a.draws → s.FewIds) :
    Inv (s.request a) := by
  have hnumber : (s.newRequest a).number = s.asked.length := hi.requests
  have hlast : (s.request a).asked[(s.newRequest a).number]? = some a := by
    simp [hnumber, IdState.request]
  have hbefore : (s.request a).issuedBefore (s.newRequest a).number = s.issued := by
    rw [hnumber, request_issuedBefore (Nat.le_refl _), issuedBefore_length]
  have hmem : ∀ r, r ∈ (s.request a).wrapper.outstanding ↔
      r ∈ s.wrapper.outstanding ∨ r = s.newRequest a := by
    simp [IdState.request]
  refine ⟨hi.request_next a, ?_, fun x id n h => ?_, fun r hr => ?_, fun r hr x => ?_,
    fun p hp => (hmem _).2 (.inl (hi.running p hp)), hi.distinct, fun c hc => ?_, hi.once,
    fun c hc r hr he => ?_⟩
  · show s.wrapper.requests + 1 = (s.asked ++ [a]).length
    rw [hi.requests, List.length_append, List.length_singleton]
  · rw [hi.request_table hfew] at h
    split at h
    · next hc =>
      obtain rfl := Option.some.inj h
      have hd := draws_of_covers hc.1
      have hid := hi.newRequest_id a
      rw [if_pos hd, ← hbefore] at hid
      exact ⟨a, hlast, hd, hc.2.trans hid⟩
    · obtain ⟨b, hb, hd, hid⟩ := hi.entries x id n h
      obtain ⟨hn, -⟩ := List.getElem?_eq_some_iff.1 hb
      exact ⟨b, request_asked hb, hd, request_issuedBefore (Nat.le_of_lt hn) ▸ hid⟩
  · rcases (hmem r).1 hr with hr | rfl
    · obtain ⟨b, hb, he⟩ := hi.ids r hr
      obtain ⟨hn, -⟩ := List.getElem?_eq_some_iff.1 hb
      exact ⟨b, request_asked hb, request_issuedBefore (Nat.le_of_lt hn) ▸ he⟩
    · refine ⟨a, hlast, ?_⟩
      rw [hbefore, ← hi.newRequest_id a]
      rfl
  · rw [hi.request_table hfew]
    rcases (hmem r).1 hr with hr | rfl
    · rw [← hi.own r hr x, if_neg]
      rintro ⟨hc, hid⟩
      have hd := draws_of_covers hc
      rw [hi.newRequest_id, if_pos hd, ← hi.next] at hid
      exact hi.id_ne_next (hfew hd) hr hid
    · by_cases hc : (s.newRequest a).covers x = true
      · rw [if_pos ⟨hc, rfl⟩, if_pos hc]
        rfl
      · rw [if_neg fun h => hc h.1, if_neg hc, hi.newRequest_id]
        -- its id, if it has drawn one, was no key, and it has inserted no other entry
        split
        · next hd => rw [← hi.next, hi.fresh (hfew hd)]
        · exact hi.not_key_zero x
  · obtain ⟨hcallee, b, hb, hrest⟩ := hi.called c hc
    obtain ⟨hn, -⟩ := List.getElem?_eq_some_iff.1 hb
    exact ⟨hcallee, b, request_asked hb, request_issuedBefore (Nat.le_of_lt hn) ▸ hrest⟩
  · rcases (hmem r).1 hr with hr | rfl
    · exact hi.inside c hc r hr he
    · -- no callback of a new request has been called
      obtain ⟨-, b, hb, -⟩ := hi.called c hc
      obtain ⟨hn, -⟩ := List.getElem?_eq_some_iff.1 hb
      exact absurd (hnumber.symm.trans he) (Nat.ne_of_gt hn)

/-- The callbacks that run when that of the request does not. -/
structure Left (s : IdState) (r : WrapperRequest ClientMap)
    (running : List (WrapperRequest ClientMap × Bool)) : Prop where
  sublist : running.Sublist s.wrapper.running
  ne : ∀ p ∈ running, p.1.number ≠ r.number
  others : ∀ p ∈ s.wrapper.running, p.1.number ≠ r.number → p ∈ running

/-- A request that has completed, with the entry of its callback erased or with it left. -/
theorem Inv.remove {s : IdState} (hi : Inv s) {r : WrapperRequest ClientMap}
    {tables : ReqTables ClientMap} (herrors : tables.errors.curReqId =
      s.wrapper.tables.errors.curReqId)
    (hentries : ∀ (x : Option ClientMap) (id : UInt64),
      (tables.table x)[id]? = (s.wrapper.tables.table x)[id]? ∨
        id = r.id ∧ (tables.table x)[id]? = none ∧ r ∈ s.wrapper.outstanding)
    {running : List (WrapperRequest ClientMap × Bool)} (hleft : Left s r running) :
    Inv { s with wrapper := { s.wrapper with tables, running }.remove r } := by
  have hmem : ∀ r', r' ∈ (s.wrapper.remove r).outstanding ↔
      r' ∈ s.wrapper.outstanding ∧ r'.number ≠ r.number := by
    intro r'
    simp only [WrapperState.remove, List.mem_filter, bne_iff_ne]
  have hkept : ∀ (x : Option ClientMap) (id : UInt64) (n : Nat), (tables.table x)[id]? = some n →
      (s.wrapper.tables.table x)[id]? = some n := by
    intro x id n h
    rcases hentries x id with he | ⟨-, he, -⟩
    · exact he ▸ h
    · rw [he] at h
      cases h
  refine ⟨?_, hi.requests, fun x id n h => hi.entries x id n (hkept x id n h),
    fun r' hr' => hi.ids r' ((hmem r').1 hr').1, fun r' hr' x => ?_,
    fun p hp => (hmem p.1).2 ⟨hi.running p (hleft.sublist.subset hp), hleft.ne p hp⟩,
    hi.distinct.sublist (hleft.sublist.map _), hi.called, hi.once, fun c hc r' hr' he => ?_⟩
  · have hnext : tables.errors.getNextReqId = s.wrapper.tables.errors.getNextReqId := by
      rw [ReqCallbacks.getNextReqId, ReqCallbacks.getNextReqId, herrors]
    exact hnext.trans hi.next
  · obtain ⟨hr', hnumber⟩ := (hmem r').1 hr'
    have hown := hi.own r' hr' x
    rcases hentries x r'.id with he | ⟨hid, he, hr⟩
    · exact he.trans hown
    · -- the two have one id, so that no entry is the other's
      have hown' := hi.own r hr x
      rw [← hid, hown] at hown'
      have hc : ¬ r'.covers x = true := by
        intro hc
        rw [if_pos hc] at hown'
        split at hown'
        · exact hnumber (Option.some.inj hown')
        · cases hown'
      rw [if_neg hc]
      exact he
  · obtain ⟨hr', hnumber⟩ := (hmem r').1 hr'
    obtain ⟨p, hp, hpn⟩ := hi.inside c hc r' hr' he
    exact ⟨p, hleft.others p hp (hpn ▸ hnumber), hpn⟩

/-- A request that has completed without an entry of its own being erased. -/
theorem Inv.dropped {s : IdState} (hi : Inv s) {r : WrapperRequest ClientMap}
    {running : List (WrapperRequest ClientMap × Bool)} (hleft : Left s r running) :
    Inv { s with wrapper := { s.wrapper with running }.remove r } :=
  hi.remove rfl (fun _ _ => .inl rfl) hleft

/-- A request whose callback has returned. -/
theorem Inv.erased {s : IdState} (hi : Inv s) {r : WrapperRequest ClientMap} {ok : Bool}
    (hr : r ∈ s.wrapper.outstanding) {running : List (WrapperRequest ClientMap × Bool)}
    (hleft : Left s r running) :
    Inv { s with wrapper :=
      { s.wrapper with
        tables := s.wrapper.tables.erase (r.lookedUp ok) r.id, running }.remove r } := by
  refine hi.remove ?_ (fun x id => ?_) hleft
  · cases ok <;> rfl
  · rw [ReqTables.table_erase]
    split
    · rw [Std.ExtTreeMap.getElem?_erase]
      split
      · next he => exact .inr ⟨(Std.LawfulEqOrd.compare_eq_iff_eq.1 he).symm, rfl, hr⟩
      · exact .inl rfl
    · exact .inl rfl

/-- The innermost callback, and those around it. -/
theorem Inv.innermost {s : IdState} (hi : Inv s) {r : WrapperRequest ClientMap} {ok : Bool}
    {running : List (WrapperRequest ClientMap × Bool)} (h : s.wrapper.running = (r, ok) :: running) :
    r ∈ s.wrapper.outstanding ∧ Left s r running := by
  have hd := hi.distinct
  rw [h, List.map_cons, List.nodup_cons] at hd
  refine ⟨hi.running (r, ok) (h ▸ List.mem_cons_self), h ▸ List.sublist_cons_self _ _,
    fun p hp he => hd.1 ?_, fun p hp hne => ?_⟩
  · rw [← he]
    exact List.mem_map_of_mem hp
  · rw [h] at hp
    rcases List.mem_cons.1 hp with rfl | hp
    · exact absurd rfl hne
    · exact hp

/-- The handler that the operation has passed looks in the map of its type. -/
theorem Inv.lookedUp_eq {s : IdState} (hi : Inv s) {r : WrapperRequest ClientMap}
    (hr : r ∈ s.wrapper.outstanding) {a : Asked} (ha : s.asked[r.number]? = some a) (ok : Bool) :
    r.lookedUp ok = handlerTable a.op ok := by
  obtain ⟨b, hb, he⟩ := hi.ids r hr
  obtain rfl := Option.some.inj (ha.symm.trans hb)
  rw [he, handlerTable, okHandler_map]
  rfl

/-- It finds the callback of the request there, if the request has one. -/
theorem Inv.dispatched_eq {s : IdState} (hi : Inv s) {r : WrapperRequest ClientMap}
    (hr : r ∈ s.wrapper.outstanding) {a : Asked} (ha : s.asked[r.number]? = some a) (ok : Bool) :
    s.wrapper.tables.dispatched (handlerTable a.op ok) r.id =
      if a.callback ok then some r.number else none := by
  have hown := hi.own r hr (handlerTable a.op ok)
  have hcovers : r.covers (handlerTable a.op ok) = a.callback ok := by
    obtain ⟨b, hb, he⟩ := hi.ids r hr
    obtain rfl := Option.some.inj (ha.symm.trans hb)
    rw [he]
    cases ok with
    | true =>
      show (a.successCallback && (okHandler a.op).map == successMap a.op) = a.successCallback
      rw [okHandler_map, beq_self_eq_true, Bool.and_true]
    | false => rfl
  rw [hcovers] at hown
  rw [ReqTables.dispatched, hown]
  split
  · next hzero =>
    rw [hzero, hi.not_key_zero] at hown
    exact hown
  · rfl

/-- The state after a completion that has a callback, or that has none. -/
def completed (s : IdState) (r : WrapperRequest ClientMap) (a : Asked) (ok called : Bool) : IdState :=
  if called then
    { s with
      wrapper := { s.wrapper with running := (r, ok) :: s.wrapper.running }
      called := s.called ++ [⟨r.number, ok, r.id, handlerTable a.op ok, r.number⟩] }
  else { s with wrapper := s.wrapper.remove r }

theorem Inv.complete_eq {s : IdState} (hi : Inv s) {r : WrapperRequest ClientMap}
    (hr : r ∈ s.wrapper.outstanding) {a : Asked} (ha : s.asked[r.number]? = some a) (ok : Bool) :
    s.complete r a ok = s.completed r a ok (a.callback ok) := by
  rw [complete, completed, hi.dispatched_eq hr ha]
  cases a.callback ok <;> rfl

/-- What a completion can be. -/
theorem Inv.step_complete {s s' : IdState} (hi : Inv s) {number : Nat} {ok : Bool}
    (h : s.step (.complete number ok) = some s') :
    ∃ r a, s.wrapper.outstanding.find? (fun r => r.number == number) = some r ∧ r.number = number ∧
      s.asked[number]? = some a ∧ (∀ p ∈ s.wrapper.running, p.1.number ≠ number) ∧
      s' = s.completed r a ok (a.callback ok) := by
  simp only [step] at h
  split at h
  · next r a hfind ha =>
    split at h <;> cases h
    next hnot =>
    have hr : r ∈ s.wrapper.outstanding := List.mem_of_find?_eq_some hfind
    have hn : r.number = number := by simpa using List.find?_some hfind
    refine ⟨r, a, hfind, hn, ha, fun p hp he => ?_, hi.complete_eq hr (hn ▸ ha) ok⟩
    exact hnot (List.any_eq_true.2 ⟨p, hp, beq_iff_eq.2 he⟩)
  · cases h

theorem Inv.completed {s : IdState} (hi : Inv s) {r : WrapperRequest ClientMap}
    (hr : r ∈ s.wrapper.outstanding) {a : Asked} (ha : s.asked[r.number]? = some a)
    (hidle : ∀ p ∈ s.wrapper.running, p.1.number ≠ r.number) (ok : Bool) :
    Inv (s.completed r a ok (a.callback ok)) := by
  cases hcb : a.callback ok with
  | false => exact hi.dropped ⟨List.Sublist.refl _, hidle, fun p hp _ => hp⟩
  | true =>
    -- the request has not been called before: it would be in its callback
    have hnew : ∀ c ∈ s.called, c.number ≠ r.number := by
      intro c hc he
      obtain ⟨p, hp, hpn⟩ := hi.inside c hc r hr he.symm
      exact hidle p hp hpn
    refine ⟨hi.next, hi.requests, hi.entries, hi.ids, hi.own, fun p hp => ?_, ?_, fun c hc => ?_, ?_,
      fun c hc r' hr' he => ?_⟩
    · rcases List.mem_cons.1 hp with rfl | hp
      · exact hr
      · exact hi.running p hp
    · refine List.nodup_cons.2 ⟨fun hm => ?_, hi.distinct⟩
      obtain ⟨p, hp, he⟩ := List.mem_map.1 hm
      exact hidle p hp he
    · rcases List.mem_append.1 hc with hc | hc
      · exact hi.called c hc
      · obtain rfl := List.mem_singleton.1 hc
        obtain ⟨b, hb, he⟩ := hi.ids r hr
        obtain rfl := Option.some.inj (ha.symm.trans hb)
        have hd : a.draws = true := by
          cases ok with
          | true => exact Bool.or_eq_true_iff.2 (.inl hcb)
          | false => exact Bool.or_eq_true_iff.2 (.inr hcb)
        refine ⟨rfl, a, ha, hcb, ?_, rfl⟩
        rw [he]
        exact if_pos hd
    · show ((s.called ++ [_]).map Dispatched.number).Nodup
      rw [List.map_append, List.nodup_append]
      refine ⟨hi.once, List.nodup_singleton _, fun n hn n' hn' he => ?_⟩
      obtain ⟨c, hc, rfl⟩ := List.mem_map.1 hn
      exact hnew c hc (he.trans (List.mem_singleton.1 hn'))
    · rcases List.mem_append.1 hc with hc | hc
      · obtain ⟨p, hp, hpn⟩ := hi.inside c hc r' hr' he
        exact ⟨p, List.mem_cons_of_mem _ hp, hpn⟩
      · obtain rfl := List.mem_singleton.1 hc
        exact ⟨(r, ok), List.mem_cons_self, he.symm⟩

theorem Inv.step {s s' : IdState} {a : WrapperAction ClientOp} (hi : Inv s) (hok : s.fewIds a)
    (h : s.step a = some s') : Inv s' := by
  cases a with
  | request op successCallback errorCallback =>
    have hrequest : Inv (s.request ⟨op, successCallback, errorCallback⟩) := hi.request hok
    obtain rfl := Option.some.inj h
    exact hrequest
  | complete number ok =>
    obtain ⟨r, a, hfind, rfl, ha, hidle, rfl⟩ := hi.step_complete h
    exact hi.completed (List.mem_of_find?_eq_some hfind) ha hidle ok
  | returns =>
    obtain ⟨wrapper, hw, rfl⟩ := Option.map_eq_some_iff.1 h
    simp only [WrapperState.step] at hw
    split at hw <;> cases hw
    next r ok running hrun =>
    obtain ⟨hr, hleft⟩ := hi.innermost hrun
    exact hi.erased hr hleft
  | throws =>
    obtain ⟨wrapper, hw, rfl⟩ := Option.map_eq_some_iff.1 h
    simp only [WrapperState.step] at hw
    split at hw <;> cases hw
    next r ok running hrun =>
    obtain ⟨-, hleft⟩ := hi.innermost hrun
    exact hi.dropped hleft

/-- The tables and requests take the steps of the wrapper. -/
theorem Inv.step_wrapper {s s' : IdState} {a : WrapperAction ClientOp} (hi : Inv s)
    (h : s.step a = some s') :
    s.wrapper.step (fun op => some (successMap op)) a = some s'.wrapper := by
  cases a with
  | request op successCallback errorCallback =>
    obtain rfl := Option.some.inj h
    rfl
  | complete number ok =>
    obtain ⟨r, a, hfind, rfl, ha, hidle, rfl⟩ := hi.step_complete h
    have hr := List.mem_of_find?_eq_some hfind
    have hnot : ¬ (s.wrapper.running.any fun p => p.1.number == r.number) = true := by
      intro hany
      obtain ⟨p, hp, he⟩ := List.any_eq_true.1 hany
      exact hidle p hp (beq_iff_eq.1 he)
    have hfinds : s.wrapper.tables.finds (r.lookedUp ok) r.id = a.callback ok := by
      rw [ReqTables.finds, hi.lookedUp_eq hr ha, hi.dispatched_eq hr ha]
      cases a.callback ok <;> rfl
    simp only [WrapperState.step, hfind, if_neg hnot, hfinds, IdState.completed]
    cases a.callback ok <;> rfl
  | returns =>
    obtain ⟨wrapper, hw, rfl⟩ := Option.map_eq_some_iff.1 h
    exact hw
  | throws =>
    obtain ⟨wrapper, hw, rfl⟩ := Option.map_eq_some_iff.1 h
    exact hw

theorem Reach.inv {s : IdState} (h : Reach step fewIds {} s) : Inv s :=
  h.invariant .init fun _ _ _ hi hok hs => hi.step hok hs

/-- A run of the wrapper with its ids is one of its tables. -/
theorem Reach.wrapper {s : IdState} (h : Reach step fewIds {} s) :
    Reach (WrapperState.step fun op => some (successMap op)) anyStep {} s.wrapper := by
  induction h with
  | init => exact .init
  | step hr _ hs ih => exact ih.step trivial ((Reach.inv hr).step_wrapper hs)

/-! ## Requests and their callbacks -/

/-- The next id is free, and each completion calls the callback of its request. -/
structure Correlated (s : IdState) : Prop where
  fresh : s.FewIds → s.wrapper.tables.errors.getNextReqId ≠ 0 ∧
    ¬ s.wrapper.tables.Key s.wrapper.tables.errors.getNextReqId
  inserts : ∀ a : Asked, (a.draws → s.FewIds) → ∀ x, (s.newRequest a).covers x = true →
    ((s.request a).wrapper.tables.table x)[(s.newRequest a).id]? = some (s.newRequest a).number
  reached : ∀ r ∈ s.wrapper.outstanding, ∃ a, s.asked[r.number]? = some a ∧ ∀ ok,
    s.wrapper.tables.dispatched (handlerTable a.op ok) r.id =
      if a.callback ok then some r.number else none
  /-- a request that is not in its callback can complete either way -/
  completes : ∀ r ∈ s.wrapper.outstanding,
    (∀ p ∈ s.wrapper.running, p.1.number ≠ r.number) → ∀ ok,
      (s.step (.complete r.number ok)).isSome = true
  /-- its completion calls its own callback, if it has one for it, and no other -/
  calls : ∀ number ok s', s.step (.complete number ok) = some s' →
    ∃ r ∈ s.wrapper.outstanding, r.number = number ∧ ∃ a, s.asked[number]? = some a ∧
      if a.callback ok then
        s'.called = s.called ++ [⟨number, ok, r.id, handlerTable a.op ok, number⟩] ∧
          s'.wrapper.running = (r, ok) :: s.wrapper.running
      else
        s'.called = s.called ∧ s'.wrapper.running = s.wrapper.running ∧
          ∀ r' ∈ s'.wrapper.outstanding, r'.number ≠ number
  called : ∀ c ∈ s.called, s.Own c
  once : (s.called.map Dispatched.number).Nodup

theorem Inv.correlated {s : IdState} (hi : Inv s) : Correlated s where
  fresh := by
    intro hfew
    refine ⟨ReqTables.getNextReqId_ne_zero _, ?_⟩
    rintro ⟨x, hx⟩
    rw [Std.ExtTreeMap.mem_iff_isSome_getElem?, hi.fresh hfew x] at hx
    cases hx
  inserts := by
    intro a hfew x hx
    rw [hi.request_table hfew, if_pos ⟨hx, rfl⟩]
    rfl
  reached := by
    intro r hr
    obtain ⟨a, ha, -⟩ := hi.ids r hr
    exact ⟨a, ha, hi.dispatched_eq hr ha⟩
  completes := by
    intro r hr hidle ok
    obtain ⟨r', hfind⟩ := Option.isSome_iff_exists.1
      (List.find?_isSome.2 ⟨r, hr, beq_self_eq_true _⟩ :
        (s.wrapper.outstanding.find? fun r' => r'.number == r.number).isSome = true)
    obtain ⟨a, ha, -⟩ := hi.ids r hr
    have hnot : ¬ (s.wrapper.running.any fun p => p.1.number == r.number) = true := by
      intro h
      obtain ⟨p, hp, he⟩ := List.any_eq_true.1 h
      exact hidle p hp (beq_iff_eq.1 he)
    simp only [IdState.step, hfind, ha, if_neg hnot, Option.isSome_some]
  calls := by
    intro number ok s' h
    obtain ⟨r, a, hfind, rfl, ha, -, rfl⟩ := hi.step_complete h
    refine ⟨r, List.mem_of_find?_eq_some hfind, rfl, a, ha, ?_⟩
    cases a.callback ok with
    | true => exact ⟨rfl, rfl⟩
    | false =>
      refine ⟨rfl, rfl, fun r' hr' => ?_⟩
      exact bne_iff_ne.1 (List.mem_filter.1 hr').2
  called := hi.called
  once := hi.once

/-- **Request ids.**  In every run of `NClientWrapper` that draws an id only while fewer ids than
there are have been drawn after that of any entry, the next id is not null and no key, so that
every `emplace` inserts, and each completion of a request, a success or an error, calls the
callback that the request has for it, once, and no other. -/
theorem ids_correlate {s : IdState} (h : Reach step fewIds {} s) : Correlated s :=
  (Reach.inv h).correlated

/-- Fewer requests than there are ids. -/
def fewRequests (s : IdState) (_ : WrapperAction ClientOp) : Prop := s.asked.length + 1 < idCount

instance : ∀ (s : IdState) (a : WrapperAction ClientOp), Decidable (fewRequests s a) :=
  fun s _ => inferInstanceAs (Decidable (s.asked.length + 1 < idCount))

theorem fewIds_of_fewRequests (s : IdState) (a : WrapperAction ClientOp) (h : fewRequests s a) :
    s.fewIds a := by
  have hfew : s.FewIds := by
    intro x id n _
    have hle : s.issuedSince n ≤ s.asked.length := by
      refine Nat.le_trans List.countP_le_length ?_
      rw [List.length_drop]
      exact Nat.sub_le _ _
    exact Nat.lt_of_le_of_lt (Nat.succ_le_succ hle) h
  cases a with
  | request op successCallback errorCallback => exact fun _ => hfew
  | complete number ok => trivial
  | returns => trivial
  | throws => trivial

/-- Two requests complete in the other order, and one that is made in a callback fails. -/
def nestedRequests : List (WrapperAction ClientOp) :=
  [.request (.authenticateDevice "device" none none ∅) true true,
    .request (.getUsers ⟨"token", "user"⟩ [] [] []) true false, .complete 1 true,
    .request (.joinGroup ⟨"token", "user"⟩ "group") false true, .returns, .complete 0 true,
    .complete 2 false, .returns, .returns]

theorem ids_correlate_nestedRequests :
    ∃ s, exec step fewRequests {} nestedRequests = some s ∧ s.wrapper.tables.Key 1 ∧
      s.called = [⟨1, true, 2, some .users, 1⟩, ⟨0, true, 1, some .auth, 0⟩,
        ⟨2, false, 3, none, 2⟩] ∧ Correlated s := by
  have h : (exec step fewRequests {} nestedRequests).isSome = true := by decide
  exact ⟨_, (Option.some_get h).symm, ⟨none, Std.ExtTreeMap.contains_iff_mem.1 rfl⟩, rfl,
    ids_correlate ((Reach.get_exec _ h).mono fewIds_of_fewRequests)⟩

end IdState

end NakamaCpp.CApi
