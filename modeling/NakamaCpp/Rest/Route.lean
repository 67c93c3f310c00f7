import NakamaCpp.Lib.PathTemplate
import NakamaCpp.Rest.RestCall

/-!
# Ids in the path

Every operation of src/RestClient.cpp with an id in its path appends the id as it
is, and the transport parses the text.  A route is what a server sees of the request
URI: the method, the segments of the path and the names in the query.

    KeepsRoute op ids ↔ every id of the two calls is RouteSafe           (keepsRoute_iff)

`RouteSafe` ids are made of legal path characters other than `/` and `%`, and are not
dot segments.
-/

namespace NakamaCpp.Rest

open Transcode Http PathTemplate

/-! ## Routes -/

structure Route where
  method : NHttpReqMethod
  segments : List (List Char)
  queryNames : List (List Char)
deriving DecidableEq, Repr

/-- The route of the request that the transport sends; it sends none if the URI cannot be
built. -/
def NHttpRequest.route (r : NHttpRequest) : Option Route :=
  r.uri.map fun u =>
    { method := r.method, segments := u.path.splitOn '/', queryNames := Uri.queryNames u.query }

/-- The segments of a path under `/v2`. -/
def v2 (parts : List Part) : List Part := .fixed "" :: .fixed "v2" :: parts

/-- The segments that an operation with ids means. -/
def ClientOp.template : ClientOp → List Part
  | .deleteGroup _ groupId => v2 [.fixed "group", .hole groupId]
  | .addGroupUsers _ groupId _ => v2 [.fixed "group", .hole groupId, .fixed "add"]
  | .listGroupUsers _ groupId _ _ _ => v2 [.fixed "group", .hole groupId, .fixed "user"]
  | .kickGroupUsers _ groupId _ => v2 [.fixed "group", .hole groupId, .fixed "kick"]
  | .joinGroup _ groupId => v2 [.fixed "group", .hole groupId, .fixed "join"]
  | .leaveGroup _ groupId => v2 [.fixed "group", .hole groupId, .fixed "leave"]
  | .listOwnGroups (some session) _ _ _ => v2 [.fixed "user", .hole session.userId, .fixed "group"]
  | .listUserGroups _ userId _ _ _ => v2 [.fixed "user", .hole userId, .fixed "group"]
  | .promoteGroupUsers _ groupId _ => v2 [.fixed "group", .hole groupId, .fixed "promote"]
  | .updateGroup _ groupId _ _ _ _ _ => v2 [.fixed "group", .hole groupId]
  | .listLeaderboardRecords _ leaderboardId _ _ _ => v2 [.fixed "leaderboard", .hole leaderboardId]
  | .listLeaderboardRecordsAroundOwner _ leaderboardId ownerId _ =>
    v2 [.fixed "leaderboard", .hole leaderboardId, .fixed "owner", .hole ownerId]
  | .writeLeaderboardRecord _ leaderboardId _ _ _ => v2 [.fixed "leaderboard", .hole leaderboardId]
  | .writeTournamentRecord _ tournamentId _ _ _ => v2 [.fixed "tournament", .hole tournamentId]
  | .deleteLeaderboardRecord _ leaderboardId => v2 [.fixed "leaderboard", .hole leaderboardId]
  | .listChannelMessages _ channelId _ _ _ => v2 [.fixed "channel", .hole channelId]
  | .listTournamentRecords _ tournamentId _ _ _ => v2 [.fixed "tournament", .hole tournamentId]
  | .listTournamentRecordsAroundOwner _ tournamentId ownerId _ =>
    v2 [.fixed "tournament", .hole tournamentId, .fixed "owner", .hole ownerId]
  | .joinTournament _ tournamentId => v2 [.fixed "tournament", .hole tournamentId, .fixed "join"]
  | .listStorageObjects _ collection _ _ => v2 [.fixed "storage", .hole collection]
  | .listUsersStorageObjects _ collection _ _ _ => v2 [.fixed "storage", .hole collection]
  | .rpc _ id _ => v2 [.fixed "rpc", .hole id]
  | .rpcWithKey _ id _ => v2 [.fixed "rpc", .hole id]
  | _ => []

/-- The operation with other texts for its ids. -/
def ClientOp.withPathIds : ClientOp → List String → ClientOp
  | .deleteGroup session _, [groupId] => .deleteGroup session groupId
  | .addGroupUsers session _ ids, [groupId] => .addGroupUsers session groupId ids
  | .listGroupUsers session _ limit state cursor, [groupId] =>
    .listGroupUsers session groupId limit state cursor
  | .kickGroupUsers session _ ids, [groupId] => .kickGroupUsers session groupId ids
  | .joinGroup session _, [groupId] => .joinGroup session groupId
  | .leaveGroup session _, [groupId] => .leaveGroup session groupId
  | .listOwnGroups (some session) limit state cursor, [userId] =>
    .listOwnGroups (some { session with userId }) limit state cursor
  | .listUserGroups session _ limit state cursor, [userId] =>
    .listUserGroups session userId limit state cursor
  | .promoteGroupUsers session _ ids, [groupId] => .promoteGroupUsers session groupId ids
  | .updateGroup session _ name description avatarUrl langTag isOpen, [groupId] =>
    .updateGroup session groupId name description avatarUrl langTag isOpen
  | .listLeaderboardRecords session _ ownerIds limit cursor, [leaderboardId] =>
    .listLeaderboardRecords session leaderboardId ownerIds limit cursor
  | .listLeaderboardRecordsAroundOwner session _ _ limit, [leaderboardId, ownerId] =>
    .listLeaderboardRecordsAroundOwner session leaderboardId ownerId limit
  | .writeLeaderboardRecord session _ score subscore metadata, [leaderboardId] =>
    .writeLeaderboardRecord session leaderboardId score subscore metadata
  | .writeTournamentRecord session _ score subscore metadata, [tournamentId] =>
    .writeTournamentRecord session tournamentId score subscore metadata
  | .deleteLeaderboardRecord session _, [leaderboardId] =>
    .deleteLeaderboardRecord session leaderboardId
  | .listChannelMessages session _ limit cursor forward, [channelId] =>
    .listChannelMessages session channelId limit cursor forward
  | .listTournamentRecords session _ limit cursor ownerIds, [tournamentId] =>
    .listTournamentRecords session tournamentId limit cursor ownerIds
  | .listTournamentRecordsAroundOwner session _ _ limit, [tournamentId, ownerId] =>
    .listTournamentRecordsAroundOwner session tournamentId ownerId limit
  | .joinTournament session _, [tournamentId] => .joinTournament session tournamentId
  | .listStorageObjects session _ limit cursor, [collection] =>
    .listStorageObjects session collection limit cursor
  | .listUsersStorageObjects session _ userId limit cursor, [collection] =>
    .listUsersStorageObjects session collection userId limit cursor
  | .rpc session _ payload, [id] => .rpc session id payload
  | .rpcWithKey httpKey _ payload, [id] => .rpcWithKey httpKey id payload
  | op, _ => op

/-- Segments that a server takes for the way to another segment. -/
def isDotSegment (seg : List Char) : Bool := seg == ['.'] || seg == ['.', '.']

/-- Two calls of one operation, with the templates `t` and `t'`, have the same route, and
each id arrives as it is. -/
structure SameRoute (t t' : List Part) (r r' : Route) : Prop where
  method : r.method = r'.method
  length : r.segments.length = r'.segments.length
  fixed : ∀ (k : Nat) (s : String), t[k]? = some (Part.fixed s) →
    r.segments[k]? = some s.toList ∧ r'.segments[k]? = some s.toList
  queryNames : r.queryNames = r'.queryNames
  ids : Decodes r.segments t
  ids' : Decodes r'.segments t'
  noDots : ∀ seg ∈ r.segments, isDotSegment seg = false
  noDots' : ∀ seg ∈ r'.segments, isDotSegment seg = false

/-- Two calls that differ only in their ids are sent, and with the same route. -/
def KeepsRoute (basicAuth : String) (op : ClientOp) (ids : List String) : Prop :=
  ∃ q q' r r', RestClient.request basicAuth op = some q ∧
    RestClient.request basicAuth (op.withPathIds ids) = some q' ∧
    q.route = some r ∧ q'.route = some r' ∧ SameRoute op.template (op.withPathIds ids).template r r'

/-- An id that a path can carry as it is. -/
def RouteSafe (id : String) : Prop :=
  Plain Uri.isPathCharacter id ∧ isDotSegment id.toList = false

instance (id : String) : Decidable (RouteSafe id) := inferInstanceAs (Decidable (_ ∧ _))

/-! ## Templates -/

theorem mem_template (op : ClientOp) (s : String) : Part.hole s ∈ op.template ↔ s ∈ op.pathIds := by
  cases op
  case listOwnGroups session _ _ _ =>
    cases session with
    | none => simp [ClientOp.template, ClientOp.pathIds]
    | some session => simp [ClientOp.template, ClientOp.pathIds, v2]
  all_goals simp [ClientOp.template, ClientOp.pathIds, v2]

/-- The fixed segments of the operations. -/
def fixedSegments : List String :=
  ["", "v2", "group", "add", "user", "kick", "join", "leave", "promote", "leaderboard", "owner",
    "tournament", "channel", "storage", "rpc"]

theorem fixed_template {op : ClientOp} {s : String} (h : Part.fixed s ∈ op.template) :
    s ∈ fixedSegments := by
  cases op
  case listOwnGroups session _ _ _ =>
    cases session with
    | none => cases h
    | some session =>
      simp only [ClientOp.template, v2, List.mem_cons, Part.fixed.injEq, reduceCtorEq,
        List.not_mem_nil, or_false, false_or] at h
      rcases h with rfl | rfl | rfl | rfl <;> decide
  all_goals
    simp only [ClientOp.template, v2, List.mem_cons, Part.fixed.injEq, reduceCtorEq,
      List.not_mem_nil, or_false, false_or] at h
  all_goals
    repeat' rcases h with rfl | h
    all_goals decide

/-- What a fixed segment is made of. -/
theorem fixedSegment_legal {s : String} (h : s ∈ fixedSegments) :
    (∀ c ∈ s.toList, Uri.isPathCharacter c = true ∧ c ≠ '/') ∧ isDotSegment s.toList = false := by
  have hall : (fixedSegments.all fun s =>
      (s.toList.all fun c => Uri.isPathCharacter c && c != '/') && !isDotSegment s.toList) = true := by
    decide
  have := List.all_eq_true.1 hall s h
  simp only [Bool.and_eq_true, List.all_eq_true, Bool.not_eq_true', bne_iff_ne] at this
  exact this

/-- The path of a request with ids is that of the template. -/
theorem request_template {basicAuth : String} {op : ClientOp} {q : NHttpRequest}
    (hq : RestClient.request basicAuth op = some q) (h : op.pathIds ≠ []) :
    q.path.toList = path op.template := by
  cases op
  case listOwnGroups session _ _ _ =>
    cases session with
    | none => cases hq
    | some session =>
      obtain rfl := Option.some.inj hq
      simp [RestClient.listUserGroups, RestClient.listByState, sendReq, path, ClientOp.template, v2,
        Part.chars]
  case rpc session id payload =>
    obtain rfl := Option.some.inj hq
    unfold RestClient.rpc RestClient.sendRpc
    split <;> simp [sendReq, path, ClientOp.template, v2, Part.chars]
  case rpcWithKey httpKey id payload =>
    obtain rfl := Option.some.inj hq
    unfold RestClient.rpcWithKey RestClient.sendRpc
    split <;> simp [sendReq, path, ClientOp.template, v2, Part.chars]
  all_goals first
    | exact absurd rfl h
    | obtain rfl := Option.some.inj hq
      simp [RestClient.deleteGroup, RestClient.addGroupUsers, RestClient.kickGroupUsers,
        RestClient.promoteGroupUsers, RestClient.groupUsers, RestClient.listGroupUsers,
        RestClient.joinGroup, RestClient.leaveGroup, RestClient.listUserGroups,
        RestClient.listByState, RestClient.updateGroup, RestClient.listLeaderboardRecords,
        RestClient.listLeaderboardRecordsAroundOwner, RestClient.writeLeaderboardRecord,
        RestClient.writeTournamentRecord, RestClient.writeRecord, RestClient.deleteLeaderboardRecord,
        RestClient.listChannelMessages, RestClient.listTournamentRecords,
        RestClient.listTournamentRecordsAroundOwner, RestClient.joinTournament,
        RestClient.listStorageObjects, RestClient.listUsersStorageObjects, sendReq, path,
        ClientOp.template, v2, Part.chars]

/-! ## Other ids -/

theorem pathIds_withPathIds {op : ClientOp} (h : op.pathIds ≠ []) (ids : List String) :
    (op.withPathIds ids).pathIds ≠ [] := by
  unfold ClientOp.withPathIds
  split <;> first | exact List.cons_ne_nil _ _ | exact h

theorem template_withPathIds (op : ClientOp) (ids : List String) :
    (op.withPathIds ids).template.map Part.fixed? = op.template.map Part.fixed? := by
  unfold ClientOp.withPathIds
  split <;> rfl

theorem request_isSome (basicAuth : String) {op : ClientOp} (h : op.pathIds ≠ []) :
    ∃ q, RestClient.request basicAuth op = some q := by
  cases op
  case listOwnGroups session _ _ _ =>
    cases session with
    | none => exact absurd rfl h
    | some session => exact ⟨_, rfl⟩
  all_goals exact ⟨_, rfl⟩

/-- The ids of a call decide neither its method nor the names of its arguments. -/
theorem request_withPathIds (basicAuth : String) {op : ClientOp} (h : op.pathIds ≠ [])
    (ids : List String) :
    ∃ q q', RestClient.request basicAuth op = some q ∧
      RestClient.request basicAuth (op.withPathIds ids) = some q' ∧ q.method = q'.method ∧
      q.queryArgs.map Prod.fst = q'.queryArgs.map Prod.fst := by
  have hrpc : ∀ (auth id id' : String) (payload : Option String) (args : NHttpQueryArgs),
      (RestClient.sendRpc auth id payload args).method =
        (RestClient.sendRpc auth id' payload args).method ∧
      (RestClient.sendRpc auth id payload args).queryArgs.map Prod.fst =
        (RestClient.sendRpc auth id' payload args).queryArgs.map Prod.fst := by
    intro auth id id' payload args
    unfold RestClient.sendRpc
    split
    · exact ⟨rfl, rfl⟩
    · refine ⟨rfl, ?_⟩
      simp [sendReq, optArg, named]
  have hsame : ∃ q q', RestClient.request basicAuth op = some q ∧
      RestClient.request basicAuth op = some q' ∧ q.method = q'.method ∧
      q.queryArgs.map Prod.fst = q'.queryArgs.map Prod.fst := by
    obtain ⟨q, hq⟩ := request_isSome basicAuth h
    exact ⟨q, q, hq, hq, rfl, rfl⟩
  unfold ClientOp.withPathIds
  split
  all_goals first
    | exact hsame
    | exact ⟨_, _, rfl, rfl, rfl, rfl⟩
    | exact ⟨_, _, rfl, rfl, hrpc ..⟩

/-! ## One call -/

/-- The parts of a path with ids, as the URI parser sees it: one slash, then `v2`. -/
theorem path_template {op : ClientOp} (h : op.pathIds ≠ []) :
    ∃ cs, path op.template = '/' :: 'v' :: cs := by
  cases op
  case listOwnGroups session _ _ _ =>
    cases session with
    | none => exact absurd rfl h
    | some session => exact ⟨_, rfl⟩
  all_goals first
    | exact absurd rfl h
    | exact ⟨_, rfl⟩

/-- The ids of a call that arrive as they are, are safe. -/
theorem routeSafe_of_decodes {basicAuth : String} {op : ClientOp} (h : op.pathIds ≠ [])
    {q : NHttpRequest} {r : Route} (hq : RestClient.request basicAuth op = some q)
    (hr : q.route = some r) (hids : Decodes r.segments op.template)
    (hdots : ∀ seg ∈ r.segments, isDotSegment seg = false) : ∀ id ∈ op.pathIds, RouteSafe id := by
  obtain ⟨cs, hcs⟩ := path_template h
  have hpath := request_template hq h
  obtain ⟨u, hu, rfl⟩ := Option.map_eq_some_iff.1 hr
  -- the path of the URI is what the parser left of the path of the request
  obtain ⟨u0, hu0, hpre, hl⟩ : ∃ u0 : Uri.UriComponents, u.path = u0.path ∧
      u0.path <+: path op.template ∧ ∀ c ∈ u0.path, Uri.isPathCharacter c = true := by
    cases hp : Uri.parse q.path.toList with
    | none =>
      unfold NHttpRequest.uri Uri.requestUri at hu
      rw [hp] at hu
      cases hu
    | some u0 =>
      have hp' := hp
      rw [hpath, hcs] at hp'
      have hrel := Uri.parse_relative (by decide) (by decide) hp'
      have hu' := Uri.requestUri_eq_some q.queryArgs hp hrel
      obtain rfl := Option.some.inj (hu.symm.trans hu')
      refine ⟨u0, Uri.foldl_appendQuery_path _ _, ?_, hrel.path⟩
      rw [hcs]
      exact Uri.parse_path_prefix (by decide) (by decide) hp'
  simp only [hu0] at hids hdots
  have hplain := plain_of_decodes
    (fun s hs hm => ((fixedSegment_legal (fixed_template hs)).1 '/' hm).2 rfl) hpre hl hids
  intro id hid
  obtain ⟨k, hk⟩ := List.mem_iff_getElem?.1 ((mem_template op id).2 hid)
  obtain ⟨hseg, hid⟩ := hplain k id hk
  exact ⟨hid, hdots _ (List.mem_of_getElem? hseg)⟩

/-- A call with safe ids is sent, and its segments are those of the template. -/
theorem route_of_routeSafe {basicAuth : String} {op : ClientOp} (h : op.pathIds ≠ [])
    {q : NHttpRequest} (hq : RestClient.request basicAuth op = some q)
    (hsafe : ∀ id ∈ op.pathIds, RouteSafe id) :
    q.route = some
      { method := q.method, segments := op.template.map Part.chars
        queryNames := ((q.queryArgs.map Prod.fst).insertionSort (· ≤ ·)).map Uri.encodeQuery } := by
  obtain ⟨cs, hcs⟩ := path_template h
  have hpath := request_template hq h
  have hpart : ∀ part ∈ op.template, ∀ c ∈ part.chars, Uri.isPathCharacter c = true ∧ c ≠ '/' := by
    intro part hp c hc
    cases part with
    | fixed s => exact (fixedSegment_legal (fixed_template hp)).1 c hc
    | hole s =>
      obtain ⟨hl, hs, -⟩ := (hsafe s ((mem_template op s).1 hp)).1 c hc
      exact ⟨hl, hs⟩
  have hne : op.template ≠ [] := by
    intro hnil
    rw [hnil] at hcs
    cases hcs
  have hl : ∀ c ∈ path op.template, Uri.isPathCharacter c = true := by
    intro c hc
    rcases mem_path hc with rfl | ⟨part, hp, hc⟩
    · decide
    · exact (hpart part hp c hc).1
  have hparse : Uri.parse q.path.toList = some { path := path op.template } := by
    rw [hpath]
    rw [hcs] at hl ⊢
    exact Uri.parse_legal (by decide) hl
  have hrel : Uri.Relative { path := path op.template } := by
    have := hparse
    rw [hpath, hcs] at this
    exact hcs ▸ Uri.parse_relative (by decide) (by decide) this
  unfold NHttpRequest.route NHttpRequest.uri
  rw [Uri.requestUri_eq_some _ hparse hrel, Option.map_some, Uri.foldl_appendQuery_path,
    Uri.queryNames_foldl _ _ (by simp)]
  have hnames : (Uri.entries q.queryArgs).map (fun p => Uri.encodeQuery p.1) =
      ((q.queryArgs.map Prod.fst).insertionSort (· ≤ ·)).map Uri.encodeQuery := by
    unfold Uri.entries
    rw [← List.map_insertionSort (fun p q : String × String => p.1 ≤ q.1) (· ≤ ·) Prod.fst _
      (fun _ _ _ _ => Iff.rfl), List.map_map]
    rfl
  rw [hnames]
  simp only [splitOn_path hne fun part hp hm => (hpart part hp '/' hm).2 rfl]
  rfl

/-! ## Two calls -/

theorem routeSafe_of_keepsRoute {basicAuth : String} {op : ClientOp} (h : op.pathIds ≠ [])
    {ids : List String} (hk : KeepsRoute basicAuth op ids) :
    (∀ id ∈ op.pathIds, RouteSafe id) ∧ ∀ id ∈ (op.withPathIds ids).pathIds, RouteSafe id := by
  obtain ⟨q, q', r, r', hq, hq', hr, hr', hs⟩ := hk
  exact ⟨routeSafe_of_decodes h hq hr hs.ids hs.noDots,
    routeSafe_of_decodes (pathIds_withPathIds h ids) hq' hr' hs.ids' hs.noDots'⟩

/-- The route is kept by exactly the calls with safe ids. -/
theorem keepsRoute_iff (basicAuth : String) {op : ClientOp} (h : op.pathIds ≠ []) (ids : List String) :
    KeepsRoute basicAuth op ids ↔
      (∀ id ∈ op.pathIds, RouteSafe id) ∧ ∀ id ∈ (op.withPathIds ids).pathIds, RouteSafe id := by
  constructor
  · exact routeSafe_of_keepsRoute h
  · rintro ⟨hsafe, hsafe'⟩
    obtain ⟨q, q', hq, hq', hmethod, hnames⟩ := request_withPathIds basicAuth h ids
    refine ⟨q, q', _, _, hq, hq', route_of_routeSafe h hq hsafe,
      route_of_routeSafe (pathIds_withPathIds h ids) hq' hsafe', ?_⟩
    have hfix : ∀ (op : ClientOp) (k : Nat) (s : String), op.template[k]? = some (Part.fixed s) →
        (op.template.map Part.chars)[k]? = some s.toList := by
      intro op k s hk
      rw [List.getElem?_map, hk]
      rfl
    have hdots : ∀ op : ClientOp, (∀ id ∈ op.pathIds, RouteSafe id) →
        ∀ seg ∈ op.template.map Part.chars, isDotSegment seg = false := by
      intro op hsafe seg hseg
      obtain ⟨part, hp, rfl⟩ := List.mem_map.1 hseg
      cases part with
      | fixed s => exact (fixedSegment_legal (fixed_template hp)).2
      | hole s => exact (hsafe s ((mem_template op s).1 hp)).2
    have ht := template_withPathIds op ids
    exact
      { method := hmethod
        length := by
          have := congrArg List.length ht
          rw [List.length_map, List.length_map] at this
          rw [List.length_map, List.length_map, this]
        fixed := fun k s hk => ⟨hfix op k s hk, hfix _ k s (getElem?_fixed ht hk)⟩
        queryNames := by rw [hnames]
        ids := decodes_path fun s hs => (hsafe s ((mem_template op s).1 hs)).1
        ids' := decodes_path fun s hs => (hsafe' s ((mem_template _ s).1 hs)).1
        noDots := hdots op hsafe
        noDots' := hdots _ hsafe' }

theorem keepsRoute_iff_joinGroup :
    (ClientOp.joinGroup ⟨"t", "u"⟩ "g1").pathIds ≠ [] ∧
      (KeepsRoute "" (.joinGroup ⟨"t", "u"⟩ "g1") ["g2"] ↔
        (∀ id ∈ (ClientOp.joinGroup ⟨"t", "u"⟩ "g1").pathIds, RouteSafe id) ∧
          ∀ id ∈ ((ClientOp.joinGroup ⟨"t", "u"⟩ "g1").withPathIds ["g2"]).pathIds, RouteSafe id) :=
  ⟨by decide, keepsRoute_iff "" (by decide) ["g2"]⟩

/-- Leaving this group adds a user to another one. -/
theorem not_keepsRoute :
    ¬ ∀ (basicAuth : String) (op : ClientOp) (ids : List String), op.pathIds ≠ [] →
      KeepsRoute basicAuth op ids := by
  intro h
  have hk := h "" (.leaveGroup ⟨"t", "u"⟩ "g1") ["g2/add?user_ids=u2#"] (by decide)
  have hs := (routeSafe_of_keepsRoute (by decide) hk).2 "g2/add?user_ids=u2#" (.head _)
  exact absurd hs (by decide)

end NakamaCpp.Rest
