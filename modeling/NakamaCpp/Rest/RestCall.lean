import NakamaCpp.Http.HttpClient
import NakamaCpp.Http.Uri
import NakamaCpp.Rest.RestClient

/-!
# One call of the REST client

Model of the calls in src/RestClient.cpp from `createReqContext` to the `catch` at
the end of each operation, over the transport of src/NHttpClientCppRest.cpp.  Every
operation creates its context, fills it, builds its request and hands it to the
transport, all in one `try`; the handler writes to the log and returns.

    AtomicOnFailure c fault callbacks op ↔ ¬ Throws c fault op         (atomicOnFailure_iff)

A call that throws leaves its context in `_reqContexts` and calls nobody back
(`perform_leak`).  With unreserved ids only a fault throws (`not_throws`).
-/

namespace NakamaCpp.Rest

open Transcode Http

/-! ## Data -/

/-- `RestReqContext`: whether it has its callbacks and a message for the body. -/
structure RestReqContext where
  auth : String := ""
  successCallback : Bool := false
  errorCallback : Bool := false
  data : Bool
deriving DecidableEq, Repr

/-- The members of `RestClient`; a context is named by its number. -/
structure RestClient where
  basicAuthMetadata : String
  /-- `_defaultErrorCallback` is set -/
  defaultErrorCallback : Bool := false
  reqContexts : List (Nat × RestReqContext) := []
  httpClient : NHttpClientCppRest := {}
  /-- contexts created so far -/
  created : Nat := 0
deriving DecidableEq, Repr

/-- The callbacks that are given to an operation. -/
structure Callbacks where
  success : Bool
  error : Bool
deriving DecidableEq, Repr

inductive ErrorEvent
  | errorCallback
  | defaultErrorCallback
deriving DecidableEq, Repr

/-- The points, in their order, at which a call can throw whatever its arguments are:
where memory is allocated, and in cpprest. -/
inductive ThrowPoint
  /-- `setBasicAuth`, `setSessionAuth` -/
  | auth
  /-- storing the callbacks in the context -/
  | callbacks
  /-- query arguments, document, body and headers -/
  | build
  /-- `createReqContext` of the transport -/
  | transportContext
  /-- storing the callback in the context of the transport -/
  | transportCallback
  /-- `new http_client`, if there is none -/
  | client
  /-- the rest of `NHttpClientCppRest::request` -/
  | start
deriving DecidableEq, Repr

/-- The client after a call, the error callbacks invoked in it, and whether the handler
caught an exception. -/
structure Outcome where
  client : RestClient
  invoked : List ErrorEvent := []
  threw : Bool := false
deriving DecidableEq, Repr

/-- Whether an operation has a message for the body of the response. -/
def ClientOp.hasData : ClientOp → Bool
  | .linkFacebook .. | .linkEmail .. | .linkDevice .. | .linkGoogle .. | .linkGameCenter ..
  | .linkSteam .. | .linkCustom .. | .unlinkFacebook .. | .unlinkEmail .. | .unlinkGoogle ..
  | .unlinkGameCenter .. | .unlinkSteam .. | .unlinkDevice .. | .unlinkCustom ..
  | .importFacebookFriends .. | .updateAccount .. | .addFriends .. | .deleteFriends ..
  | .blockFriends .. | .deleteGroup .. | .addGroupUsers .. | .kickGroupUsers .. | .joinGroup ..
  | .leaveGroup .. | .promoteGroupUsers .. | .updateGroup .. | .deleteLeaderboardRecord ..
  | .deleteNotifications .. | .joinTournament .. | .deleteStorageObjects .. => false
  | _ => true

/-- What `setBasicAuth` or `setSessionAuth` appends to the context, until `sendReq`
moves it into the headers. -/
def NHttpRequest.authorization (r : NHttpRequest) : String :=
  (r.headers.lookup "Authorization").getD ""

def NHttpRequest.uri (r : NHttpRequest) : Option Uri.UriComponents :=
  Uri.requestUri r.path r.queryArgs

/-! ## A call -/

namespace RestClient

/-- `createReqContext`. -/
def createReqContext (c : RestClient) (data : Bool) : RestClient :=
  { c with
    reqContexts := c.reqContexts ++ [(c.created, { data })]
    created := c.created + 1 }

/-- A write through the pointer to a context. -/
def modifyContext (c : RestClient) (ctx : Nat) (f : RestReqContext → RestReqContext) : RestClient :=
  { c with reqContexts := c.reqContexts.map fun e => if e.1 = ctx then (e.1, f e.2) else e }

def setAuth (c : RestClient) (ctx : Nat) (auth : String) : RestClient :=
  c.modifyContext ctx fun x => { x with auth := x.auth ++ auth }

def setCallbacks (c : RestClient) (ctx : Nat) (callbacks : Callbacks) : RestClient :=
  c.modifyContext ctx fun x =>
    { x with successCallback := callbacks.success, errorCallback := callbacks.error }

/-- The callback that `reqError` calls, for a request with or without one of its own. -/
def reqError (c : RestClient) (errorCallback : Bool) : List ErrorEvent :=
  if errorCallback then [.errorCallback]
  else if c.defaultErrorCallback then [.defaultErrorCallback]
  else []

/-- `sendReq` from the headers on, and whether it throws.  The transport's context is
named like the context that its callback is for. -/
def sendReq (c : RestClient) (ctx : Nat) (r : NHttpRequest) (fault : Option ThrowPoint) :
    RestClient × Bool :=
  let c := c.modifyContext ctx fun x => { x with auth := "" }
  if fault = some .transportContext then
    ({ c with httpClient := { c.httpClient with nextReqId := c.httpClient.nextReqId + 1 } }, true)
  else if fault = some .transportCallback then
    ({ c with httpClient := c.httpClient.createReqContext ctx false }, true)
  else
    let (httpClient, result) :=
      c.httpClient.request ctx true (decide (fault ≠ some .client))
        (r.uri.isSome && decide (fault ≠ some .start))
    ({ c with httpClient }, decide (result = .threw))

/-- An operation, where `fault` says at which point, if the call comes to it, it throws.
Without a session `listOwnGroups` calls back, if it can, and is done. -/
def perform (c : RestClient) (fault : Option ThrowPoint) (callbacks : Callbacks) (op : ClientOp) :
    Outcome :=
  match request c.basicAuthMetadata op with
  | none => { client := c, invoked := if callbacks.error then [.errorCallback] else [] }
  | some r =>
    let ctx := c.created
    let c := c.createReqContext op.hasData
    if fault = some .auth ∧ r.authorization ≠ "" then { client := c, threw := true }
    else
      let c := c.setAuth ctx r.authorization
      if fault = some .callbacks then { client := c, threw := true }
      else
        let c := c.setCallbacks ctx callbacks
        if fault = some .build then { client := c, threw := true }
        else
          let (c, threw) := c.sendReq ctx r fault
          { client := c, threw }

/-! ## Atomicity -/

/-- If the call throws, both tables are as before and the error callback of the
operation, or else the default one, has been called. -/
def AtomicOnFailure (c : RestClient) (fault : Option ThrowPoint) (callbacks : Callbacks)
    (op : ClientOp) : Prop :=
  (c.perform fault callbacks op).threw = true →
    (c.perform fault callbacks op).client.reqContexts = c.reqContexts ∧
      (c.perform fault callbacks op).client.httpClient.pendingRequests =
        c.httpClient.pendingRequests ∧
      (c.perform fault callbacks op).invoked = c.reqError callbacks.error

/-- The transport comes to building the request: it has a client or can make one. -/
def Initialized (c : RestClient) : Prop := c.httpClient.client = true ∨ c.httpClient.baseUri ≠ ""

/-- Handing `r` to the transport throws: by a fault on the way, or because its URI cannot
be built. -/
def SendThrows (c : RestClient) (fault : Option ThrowPoint) (r : NHttpRequest) : Prop :=
  fault = some .transportContext ∨ fault = some .transportCallback ∨
    c.Initialized ∧
      (c.httpClient.client = false ∧ fault = some .client ∨ r.uri = none ∨ fault = some .start)

/-- The call throws. -/
def Throws (c : RestClient) (fault : Option ThrowPoint) (op : ClientOp) : Prop :=
  ∃ r, request c.basicAuthMetadata op = some r ∧
    (fault = some .auth ∧ r.authorization ≠ "" ∨ fault = some .callbacks ∨ fault = some .build ∨
      c.SendThrows fault r)

/-! ## Proof -/

/-- When the transport throws. -/
theorem request_threw_iff (h : NHttpClientCppRest) (q : Nat) (callback clientBuilt requestBuilt : Bool) :
    (h.request q callback clientBuilt requestBuilt).2 = .threw ↔
      (h.client = true ∨ h.baseUri ≠ "") ∧
        (h.client = false ∧ clientBuilt = false ∨ requestBuilt = false) := by
  unfold NHttpClientCppRest.request NHttpClientCppRest.createReqContext
  by_cases hb : h.baseUri = "" <;> cases hc : h.client <;> cases clientBuilt <;>
    cases requestBuilt <;> simp [hb]

/-- The transport's context stays, whether or not `request` throws. -/
theorem request_pending {h : NHttpClientCppRest} (hi : h.client = true ∨ h.baseUri ≠ "") (q : Nat)
    (callback clientBuilt requestBuilt : Bool) :
    (h.request q callback clientBuilt requestBuilt).1.pendingRequests =
      h.pendingRequests ++ [{ id := h.nextReqId, request := q, callback }] := by
  have hini : (!(h.createReqContext q callback).client &&
      (h.createReqContext q callback).baseUri == "") = false := by
    show (!h.client && h.baseUri == "") = false
    rcases hi with hi | hi
    · rw [hi]; rfl
    · rw [beq_eq_false_iff_ne.2 hi, Bool.and_false]
  unfold NHttpClientCppRest.request
  dsimp only
  rw [hini, if_neg Bool.false_ne_true]
  split <;> rfl

/-- The contexts in the set. -/
def contexts (c : RestClient) : List Nat := c.reqContexts.map Prod.fst

theorem contexts_createReqContext (c : RestClient) (data : Bool) :
    (c.createReqContext data).contexts = c.contexts ++ [c.created] := by
  unfold contexts createReqContext
  rw [List.map_append, List.map_singleton]

theorem contexts_modifyContext (c : RestClient) (ctx : Nat) (f : RestReqContext → RestReqContext) :
    (c.modifyContext ctx f).contexts = c.contexts := by
  unfold contexts modifyContext
  rw [List.map_map]
  refine List.map_congr_left fun e _ => ?_
  show (if e.1 = ctx then (e.1, f e.2) else e).1 = e.1
  split <;> rfl

theorem contexts_sendReq (c : RestClient) (ctx : Nat) (r : NHttpRequest) (fault : Option ThrowPoint) :
    (c.sendReq ctx r fault).1.contexts = c.contexts := by
  have hm := contexts_modifyContext c ctx fun x => { x with auth := "" }
  unfold sendReq
  dsimp only
  split
  · exact hm
  · split
    · exact hm
    · exact hm

theorem sendReq_threw_iff (c : RestClient) (ctx : Nat) (r : NHttpRequest) (fault : Option ThrowPoint) :
    (c.sendReq ctx r fault).2 = true ↔ c.SendThrows fault r := by
  unfold sendReq SendThrows
  dsimp only
  by_cases h1 : fault = some .transportContext
  · rw [if_pos h1]
    exact iff_of_true rfl (Or.inl h1)
  · rw [if_neg h1]
    by_cases h2 : fault = some .transportCallback
    · rw [if_pos h2]
      exact iff_of_true rfl (Or.inr (Or.inl h2))
    · have hbuilt : (r.uri.isSome && decide (fault ≠ some .start)) = false ↔
          r.uri = none ∨ fault = some .start := by
        cases r.uri <;> simp
      rw [if_neg h2, decide_eq_true_eq, request_threw_iff, or_iff_right h1, or_iff_right h2, hbuilt,
        decide_eq_false_iff_not, not_not]
      exact Iff.rfl

/-- After the context is created, every way out of the call has it in the set. -/
theorem contexts_perform {c : RestClient} {op : ClientOp} {r : NHttpRequest}
    (hr : request c.basicAuthMetadata op = some r) (fault : Option ThrowPoint)
    (callbacks : Callbacks) :
    (c.perform fault callbacks op).client.contexts = c.contexts ++ [c.created] ∧
      (c.perform fault callbacks op).invoked = [] := by
  have hcreate := contexts_createReqContext c op.hasData
  unfold perform
  rw [hr]
  dsimp only
  split
  · exact ⟨hcreate, rfl⟩
  · split
    · exact ⟨(contexts_modifyContext ..).trans hcreate, rfl⟩
    · split
      · exact ⟨(contexts_modifyContext ..).trans ((contexts_modifyContext ..).trans hcreate), rfl⟩
      · exact ⟨(contexts_sendReq ..).trans
          ((contexts_modifyContext ..).trans ((contexts_modifyContext ..).trans hcreate)), rfl⟩

theorem perform_threw_iff (c : RestClient) (fault : Option ThrowPoint) (callbacks : Callbacks)
    (op : ClientOp) : (c.perform fault callbacks op).threw = true ↔ c.Throws fault op := by
  unfold perform Throws
  cases hr : request c.basicAuthMetadata op with
  | none => simp
  | some r =>
    simp only [Option.some.injEq, exists_eq_left']
    by_cases h1 : fault = some .auth ∧ r.authorization ≠ ""
    · rw [if_pos h1]
      exact iff_of_true rfl (Or.inl h1)
    · rw [if_neg h1, or_iff_right h1]
      by_cases h2 : fault = some .callbacks
      · rw [if_pos h2]
        exact iff_of_true rfl (Or.inl h2)
      · rw [if_neg h2, or_iff_right h2]
        by_cases h3 : fault = some .build
        · rw [if_pos h3]
          exact iff_of_true rfl (Or.inl h3)
        · rw [if_neg h3, or_iff_right h3]
          exact sendReq_threw_iff ..

/-- A call that throws leaves its context behind and tells nobody. -/
theorem perform_leak {c : RestClient} {fault : Option ThrowPoint} {op : ClientOp}
    (h : c.Throws fault op) (callbacks : Callbacks) :
    (c.perform fault callbacks op).client.contexts = c.contexts ++ [c.created] ∧
      (c.perform fault callbacks op).invoked = [] := by
  obtain ⟨r, hr, -⟩ := h
  exact contexts_perform hr fault callbacks

/-- A call is atomic on failure only if it does not fail. -/
theorem atomicOnFailure_iff (c : RestClient) (fault : Option ThrowPoint) (callbacks : Callbacks)
    (op : ClientOp) : c.AtomicOnFailure fault callbacks op ↔ ¬ c.Throws fault op := by
  constructor
  · intro h ht
    have hsame := (h ((perform_threw_iff c fault callbacks op).2 ht)).1
    have hleak := (perform_leak ht callbacks).1
    have hlen := congrArg List.length hleak
    unfold contexts at hlen
    rw [hsame, List.length_append, List.length_singleton] at hlen
    omega
  · intro h ht
    exact absurd ((perform_threw_iff c fault callbacks op).1 ht) h

/-- A group id with a space: the path is no URI, and the user never hears of the call. -/
theorem not_atomicOnFailure :
    ¬ ∀ (c : RestClient) (fault : Option ThrowPoint) (callbacks : Callbacks) (op : ClientOp),
      c.AtomicOnFailure fault callbacks op := by
  intro h
  have hc := h { basicAuthMetadata := "Basic a2V5Og==", httpClient := { baseUri := "http://host:7350" } }
    none ⟨true, true⟩ (.joinGroup ⟨"t", "u"⟩ "my group")
  have hctx := (hc (by decide)).1
  revert hctx
  decide

/-! ## Calls that do not throw -/

/-- A path that starts with `/v`, of legal characters. -/
def isLegalPath (path : String) : Bool :=
  match path.toList with
  | '/' :: 'v' :: cs => cs.all Uri.isPathCharacter
  | _ => false

/-- What is known of the path of a request: how it starts, and that only the ids can have
characters that are not legal. -/
structure PathOf (ids : List String) (path : String) : Prop where
  slash : ∃ cs, path.toList = '/' :: 'v' :: cs
  legal : (∀ id ∈ ids, Unreserved id) → ∀ c ∈ path.toList, Uri.isPathCharacter c = true

theorem PathOf.literal {path : String} (h : isLegalPath path = true) (ids : List String) :
    PathOf ids path := by
  unfold isLegalPath at h
  split at h
  · next cs hcs =>
    refine ⟨⟨cs, hcs⟩, fun _ c hc => ?_⟩
    rw [hcs] at hc
    rcases List.mem_cons.1 hc with rfl | hc
    · decide
    · rcases List.mem_cons.1 hc with rfl | hc
      · decide
      · exact List.all_eq_true.1 h c hc
  · cases h

theorem PathOf.append {ids : List String} {path t : String} (h : PathOf ids path)
    (ht : (∀ id ∈ ids, Unreserved id) → ∀ c ∈ t.toList, Uri.isPathCharacter c = true) :
    PathOf ids (path ++ t) := by
  obtain ⟨cs, hcs⟩ := h.slash
  refine ⟨⟨cs ++ t.toList, by rw [String.toList_append, hcs]; rfl⟩, fun hids c hc => ?_⟩
  rw [String.toList_append] at hc
  exact (List.mem_append.1 hc).elim (h.legal hids c) (ht hids c)

theorem PathOf.id {ids : List String} {path id : String} (h : PathOf ids path) (hid : id ∈ ids) :
    PathOf ids (path ++ id) :=
  h.append fun hids c hc => by
    have := hids id hid c hc
    unfold Uri.isPathCharacter
    rw [this]
    rfl

theorem PathOf.lit {ids : List String} {path t : String} (h : PathOf ids path)
    (ht : t.toList.all Uri.isPathCharacter = true) : PathOf ids (path ++ t) :=
  h.append fun _ => List.all_eq_true.1 ht

/-- The path `pre`, one id, `post`. -/
theorem PathOf.action {ids : List String} {pre post id : String} (h : isLegalPath pre = true)
    (hid : id ∈ ids) (ht : post.toList.all Uri.isPathCharacter = true) :
    PathOf ids (pre ++ id ++ post) :=
  ((PathOf.literal h ids).id hid).lit ht

theorem PathOf.owner {pre id owner : String} (h : isLegalPath pre = true) :
    PathOf [id, owner] (pre ++ id ++ "/owner/" ++ owner) :=
  (PathOf.action h (.head _) (by decide)).id (.tail _ (.head _))

theorem request_path {basicAuth : String} {op : ClientOp} {r : NHttpRequest}
    (hr : request basicAuth op = some r) : PathOf op.pathIds r.path := by
  cases op
  case listOwnGroups session _ _ _ =>
    cases session with
    | none => cases hr
    | some session =>
      obtain rfl := Option.some.inj hr
      exact .action (by decide) (.head _) (by decide)
  all_goals obtain rfl := Option.some.inj hr
  case listUserGroups => exact .action (by decide) (.head _) (by decide)
  case addGroupUsers => exact .action (by decide) (.head _) (by decide)
  case kickGroupUsers => exact .action (by decide) (.head _) (by decide)
  case promoteGroupUsers => exact .action (by decide) (.head _) (by decide)
  case listGroupUsers => exact .action (by decide) (.head _) (by decide)
  case joinGroup => exact .action (by decide) (.head _) (by decide)
  case leaveGroup => exact .action (by decide) (.head _) (by decide)
  case joinTournament => exact .action (by decide) (.head _) (by decide)
  case deleteGroup => exact (PathOf.literal (by decide) _).id (.head _)
  case updateGroup => exact (PathOf.literal (by decide) _).id (.head _)
  case listLeaderboardRecords => exact (PathOf.literal (by decide) _).id (.head _)
  case writeLeaderboardRecord => exact (PathOf.literal (by decide) _).id (.head _)
  case deleteLeaderboardRecord => exact (PathOf.literal (by decide) _).id (.head _)
  case writeTournamentRecord => exact (PathOf.literal (by decide) _).id (.head _)
  case listTournamentRecords => exact (PathOf.literal (by decide) _).id (.head _)
  case listChannelMessages => exact (PathOf.literal (by decide) _).id (.head _)
  case listStorageObjects => exact (PathOf.literal (by decide) _).id (.head _)
  case listUsersStorageObjects => exact (PathOf.literal (by decide) _).id (.head _)
  case listLeaderboardRecordsAroundOwner => exact .owner (by decide)
  case listTournamentRecordsAroundOwner => exact .owner (by decide)
  case rpc session id payload =>
    show PathOf [id] (sendRpc session.auth id payload []).path
    unfold sendRpc
    split <;> exact (PathOf.literal (by decide) _).id (.head _)
  case rpcWithKey httpKey id payload =>
    show PathOf [id] (sendRpc "" id payload _).path
    unfold sendRpc
    split <;> exact (PathOf.literal (by decide) _).id (.head _)
  all_goals
    dsimp only [authenticateDevice, authenticateEmail, authenticateFacebook, authenticateGoogle,
      authenticateGameCenter, authenticateCustom, authenticateSteam, linkFacebook, linkEmail,
      linkDevice, linkGoogle, linkGameCenter, linkSteam, linkCustom, unlinkFacebook, unlinkEmail,
      unlinkGoogle, unlinkGameCenter, unlinkSteam, unlinkDevice, unlinkCustom,
      importFacebookFriends, getAccount, updateAccount, getUsers, addFriends, deleteFriends,
      blockFriends, listFriends, createGroup, listGroups, listMatches, listNotifications,
      deleteNotifications, listTournaments, writeStorageObjects, readStorageObjects,
      deleteStorageObjects, authenticate, postAccount, friends, listByState, Rest.sendReq]
    exact .literal (by decide) _

/-- The URI of a request is lost with its path: the query is encoded. -/
theorem uri_eq_none_iff {basicAuth : String} {op : ClientOp} {r : NHttpRequest}
    (hr : request basicAuth op = some r) : r.uri = none ↔ Uri.parse r.path.toList = none := by
  obtain ⟨cs, hcs⟩ := (request_path hr).slash
  unfold NHttpRequest.uri
  cases hp : Uri.parse r.path.toList with
  | none => exact iff_of_true (by unfold Uri.requestUri; rw [hp]; rfl) rfl
  | some u =>
    rw [Uri.requestUri_eq_some _ hp (Uri.parse_relative (by decide) (by decide) (hcs ▸ hp))]
    exact iff_of_false (by simp) (by simp)

/-- A path of legal characters is a URI. -/
theorem parse_path {path : String} {ids : List String} (h : PathOf ids path)
    (hids : ∀ id ∈ ids, Unreserved id) : Uri.parse path.toList = some { path := path.toList } := by
  obtain ⟨cs, hcs⟩ := h.slash
  have hl := h.legal hids
  rw [hcs] at hl ⊢
  exact Uri.parse_legal (by decide) hl

/-- With unreserved ids a call throws by a fault only. -/
theorem not_throws (c : RestClient) {op : ClientOp} (h : op.IdsUnreserved) : ¬ c.Throws none op := by
  rintro ⟨r, hr, ht⟩
  have huri : r.uri ≠ none := by
    rw [Ne, uri_eq_none_iff hr, parse_path (request_path hr) h]
    simp
  simp [SendThrows, huri] at ht

/-- A call that does not throw is in both tables, under one name. -/
theorem perform_sent {c : RestClient} {fault : Option ThrowPoint} {op : ClientOp} {r : NHttpRequest}
    (hr : request c.basicAuthMetadata op = some r) (hi : c.Initialized) (h : ¬ c.Throws fault op)
    (callbacks : Callbacks) :
    (c.perform fault callbacks op).client.contexts = c.contexts ++ [c.created] ∧
      (c.perform fault callbacks op).client.httpClient.pendingRequests =
        c.httpClient.pendingRequests ++
          [{ id := c.httpClient.nextReqId, request := c.created, callback := true }] := by
  refine ⟨(contexts_perform hr fault callbacks).1, ?_⟩
  have hnot := fun ht => h ⟨r, hr, ht⟩
  simp only [imp_false, not_or, SendThrows, not_and, not_not] at hnot
  obtain ⟨hauth, hcallbacks, hbuild, hcontext, hcallback, -⟩ := hnot
  unfold perform
  rw [hr]
  dsimp only
  rw [if_neg fun ha => ha.2 (hauth ha.1), if_neg hcallbacks, if_neg hbuild]
  unfold sendReq
  dsimp only
  rw [if_neg hcontext, if_neg hcallback]
  exact request_pending hi ..

end RestClient

end NakamaCpp.Rest
