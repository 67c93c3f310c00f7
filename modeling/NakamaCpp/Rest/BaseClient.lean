import NakamaCpp.CApi.ClientWrapper
import NakamaCpp.Realtime.RtUrl
import NakamaCpp.Rest.DefaultSession
import NakamaCpp.Rest.SameRequest

/-!
# The server of a client

What the constructors of src/RestClient.cpp and src/GrpcClient.cpp make of their parameters, and
`createRtClient` of src/BaseClient.cpp; src/nakama-c/ClientFactoryC.cpp and
ClientFactoryWrapperImpl.h pass the parameters on through C.  A key is the string of its bytes, and
`Base64Escape` and `Base64Unescape` are functions of protobuf.

    every request of either client carries the key, the token of its session, or nothing
                                                                         (credentials_carried)
    REST and realtime URLs of a client are parsed to its host and the port that it uses, also of
    one that is made through C                                                 (server_named)
-/

namespace NakamaCpp.Rest

open Http Realtime

/-! ## Parameters -/

/-- `DEFAULT_PORT`. -/
def defaultPort : Int32 := -1

structure NClientParameters where
  serverKey : List UInt8 := "defaultkey".toUTF8.data.toList
  host : List Char := "127.0.0.1".toList
  port : Int32 := defaultPort
  ssl : Bool := false

/-- A host has only characters that an authority may have, and there is no user before it. -/
def NClientParameters.Named (p : NClientParameters) : Prop :=
  (∀ c ∈ p.host, Uri.isAuthorityCharacter c = true) ∧ '@' ∉ p.host

instance (p : NClientParameters) : Decidable p.Named := inferInstanceAs (Decidable (_ ∧ _))

/-- `Base64Escape`, with padding, and `Base64Unescape`. -/
structure Base64Functions where
  base64Escape : List UInt8 → String
  base64Unescape : String → Option (List UInt8)

namespace NClientParameters

/-- What is sent for the key, `serverKey + ":"`. -/
def credentials (p : NClientParameters) : List UInt8 := p.serverKey ++ [58]

/-- `_basicAuthMetadata` of both clients. -/
def basicAuthMetadata (base64 : Base64Functions) (p : NClientParameters) : String :=
  "Basic " ++ base64.base64Escape p.credentials

/-- The parameters as they come out of `createClient` of the C interface. -/
def crossed (p : NClientParameters) : NClientParameters :=
  { p with
    serverKey := p.serverKey.takeWhile (· ≠ 0)
    host := p.host.takeWhile (· ≠ '\x00') }

end NClientParameters

/-- The port in the constructor of `RestClient`. -/
def RestClient.port (p : NClientParameters) : Int32 :=
  if p.port = defaultPort then if p.ssl then 443 else 7350 else p.port

/-- What `setBaseUri` gets. -/
def RestClient.baseUrl (p : NClientParameters) : List Char :=
  (if p.ssl then "https".toList else "http".toList) ++ "://".toList ++ p.host ++ ":".toList ++
    (toString (RestClient.port p)).toList

/-- The port in the constructor of `GrpcClient`. -/
def GrpcClient.port (p : NClientParameters) : Int32 :=
  if p.port = defaultPort then if p.ssl then 443 else 7349 else p.port

/-- The target of the channel. -/
def GrpcClient.target (p : NClientParameters) : List Char :=
  p.host ++ ":".toList ++ (toString (GrpcClient.port p)).toList

/-- What the constructor of `NRtClient` gets. -/
structure RtClientArguments (τ : Type) where
  transport : τ
  endpoint : Endpoint

/-- `BaseClient::createRtClient`; `createDefaultWebsocket` is null in a build without a websocket. -/
def BaseClient.createRtClient {τ : Type} (createDefaultWebsocket : Option τ) (p : NClientParameters)
    (h : p.Named) (port : Int32) (transport : Option τ) : Option (RtClientArguments τ) :=
  (transport.or createDefaultWebsocket).map fun transport =>
    { transport, endpoint := ⟨p.host, port, p.ssl, h.1⟩ }

/-! ## Credentials -/

/-- The operations that have no session but the key. -/
def ClientOp.authenticates : ClientOp → Bool
  | .authenticateDevice .. | .authenticateEmail .. | .authenticateFacebook .. => true
  | .authenticateGoogle .. | .authenticateGameCenter .. | .authenticateCustom .. => true
  | .authenticateSteam .. => true
  | _ => false

theorem lookup_authorization {q : NHttpRequest} {auth : String}
    (h : q.headers = [("Accept", "application/json"), ("Content-Type", "application/json")] ++
      if auth = "" then [] else [("Authorization", auth)]) :
    q.headers.lookup "Authorization" = if auth = "" then none else some auth := by
  rw [h]
  split <;> rfl

theorem headers_sendRpc (auth id : String) (payload : Option String) (args : NHttpQueryArgs) :
    (RestClient.sendRpc auth id payload args).headers =
      [("Accept", "application/json"), ("Content-Type", "application/json")] ++
        if auth = "" then [] else [("Authorization", auth)] := by
  unfold RestClient.sendRpc
  split <;> rfl

/-- What the server reads of a request. -/
def Credentials (base64 : Base64Functions) (p : NClientParameters) (op : ClientOp)
    (authorization : String) : Prop :=
  match CApi.sessionOf op with
  | some session => authorization = "Bearer " ++ session.authToken
  | none =>
    if op.authenticates then
      ∃ text, authorization = "Basic " ++ text ∧
        base64.base64Unescape text = some (p.serverKey ++ [58])
    else authorization = ""

/-- **Credentials.**  Both clients send the same authorization: an authentication what is decoded
to the key and a colon, whatever bytes the key has, an operation with a session its token, and an
RPC with a key of its own nothing. -/
theorem credentials_carried (base64 : Base64Functions)
    (hinverse : ∀ b : List UInt8, b.length < 2 ^ 31 →
      base64.base64Unescape (base64.base64Escape b) = some b)
    (p : NClientParameters) (hkey : p.serverKey.length + 1 < 2 ^ 31) {op : ClientOp}
    {q : NHttpRequest} {call : Call}
    (hq : RestClient.request (p.basicAuthMetadata base64) op = some q)
    (hcall : GrpcClient.call (p.basicAuthMetadata base64) op = some call) :
    q.headers.lookup "Authorization" =
        (if call.authorization = "" then none else some call.authorization) ∧
      Credentials base64 p op call.authorization := by
  have hread : base64.base64Unescape (base64.base64Escape p.credentials) = some p.credentials := by
    refine hinverse _ ?_
    rw [NClientParameters.credentials, List.length_append]
    exact hkey
  cases op
  case listOwnGroups session _ _ _ =>
    cases session with
    | none => cases hq
    | some session =>
      obtain rfl := Option.some.inj hq
      obtain rfl := Option.some.inj hcall
      exact ⟨lookup_authorization rfl, rfl⟩
  case rpc session id payload =>
    obtain rfl := Option.some.inj hq
    obtain rfl := Option.some.inj hcall
    exact ⟨lookup_authorization (headers_sendRpc session.auth id payload _), rfl⟩
  case rpcWithKey httpKey id payload =>
    obtain rfl := Option.some.inj hq
    obtain rfl := Option.some.inj hcall
    exact ⟨lookup_authorization (headers_sendRpc "" id payload _), rfl⟩
  all_goals
    obtain rfl := Option.some.inj hq
    obtain rfl := Option.some.inj hcall
    refine ⟨lookup_authorization rfl, ?_⟩
    first
      | rfl
      | exact ⟨_, rfl, hread⟩

/-- The alphabet and the padding as they are. -/
def standardBase64 : Base64Functions where
  base64Escape b := String.ofList (Base64.standardEncode b)
  base64Unescape text := Base64.standardDecode text.toList

theorem credentials_carried_device :
    ∃ q call, RestClient.request (NClientParameters.basicAuthMetadata standardBase64 {})
        (.authenticateDevice "device" none none ∅) = some q ∧
      GrpcClient.call (NClientParameters.basicAuthMetadata standardBase64 {})
        (.authenticateDevice "device" none none ∅) = some call ∧
      q.headers.lookup "Authorization" =
        (if call.authorization = "" then none else some call.authorization) ∧
      Credentials standardBase64 {} (.authenticateDevice "device" none none ∅) call.authorization := by
  refine ⟨_, _, rfl, rfl, credentials_carried standardBase64 (fun b _ => ?_) {} (by decide) rfl rfl⟩
  show Base64.standardDecode (String.ofList (Base64.standardEncode b)).toList = some b
  rw [String.toList_ofList, Base64.standardDecode_standardEncode]

/-! ## The host and the port -/

theorem toDigits_isDigit (n : Nat) : ∀ d ∈ Nat.toDigits 10 n, d.isDigit = true :=
  fun _ hd => Nat.isDigit_of_mem_toDigits (by decide) (by decide) hd

/-- The authority with a port that is not negative. -/
theorem splitAuthority_toString {host : List Char} (hhost : '@' ∉ host) {port : Int32}
    (hport : 0 ≤ port) :
    Uri.splitAuthority (host ++ ':' :: (toString port).toList) = ([], host, port.toInt.toNat) := by
  have hnonneg : 0 ≤ port.toInt := Int32.le_iff_toInt_le.1 hport
  have hlt : port.toInt < 2 ^ 31 := port.toInt_lt
  have htext : toString port = toString port.toInt := rfl
  rw [htext, CppStd.toList_toString, if_neg (by omega),
    Uri.splitAuthority_port hhost (toDigits_isDigit _), Nat.ofDigitChars_ten_toDigits]
  have hmin : min port.toInt.natAbs (2 ^ 31 - 1) = port.toInt.toNat := by omega
  rw [hmin]

theorem host_crossed {p : NClientParameters} (h : p.Named) : p.crossed.host = p.host := by
  refine List.takeWhile_eq_self_iff.2 fun c hc => ?_
  exact decide_eq_true (Uri.isAuthorityEnd_of_authority (h.1 c hc)).2

theorem named_crossed {p : NClientParameters} (h : p.Named) : p.crossed.Named := by
  unfold NClientParameters.Named
  rw [host_crossed h]
  exact h

/-- The base URL, parsed. -/
theorem parse_baseUrl {p : NClientParameters} (h : p.Named) (hport : 0 ≤ RestClient.port p) :
    Uri.parse (RestClient.baseUrl p) =
      some
        { scheme := if p.ssl then "https".toList else "http".toList
          host := p.host.map Char.toLower, port := (RestClient.port p).toInt.toNat, path := ['/'] } := by
  have hauthority : ∀ c ∈ p.host ++ ':' :: (toString (RestClient.port p)).toList,
      Uri.isAuthorityCharacter c = true := by
    intro c hc
    rw [List.mem_append, List.mem_cons] at hc
    rcases hc with hc | rfl | hc
    · exact h.1 c hc
    · decide
    · exact isAuthorityCharacter_toString _ c hc
  have hscheme : ∀ c ∈ 'h' :: (if p.ssl then ['t', 't', 'p', 's'] else ['t', 't', 'p']),
      c.isAlphanum = true := by
    rw [← List.all_eq_true]
    cases p.ssl <;> decide
  have hurl : RestClient.baseUrl p = 'h' :: (if p.ssl then ['t', 't', 'p', 's'] else ['t', 't', 'p']) ++
      ':' :: '/' :: '/' :: (p.host ++ ':' :: (toString (RestClient.port p)).toList) := by
    unfold RestClient.baseUrl
    cases p.ssl <;> simp
  rw [hurl, Uri.parse_authority (by decide) hscheme hauthority, splitAuthority_toString h.2 hport]
  cases p.ssl <;> rfl

/-- The realtime URL, parsed. -/
theorem parse_connectUrl {e : Endpoint} (hhost : '@' ∉ e.host) (hport : 0 ≤ e.usedPort)
    (authToken : List UInt8) (createStatus : Bool) (protocol : NRtClientProtocol) :
    Uri.parse (connectUrl e authToken createStatus protocol) =
      some
        { scheme := if e.ssl then "wss".toList else "ws".toList
          host := e.host.map Char.toLower, port := e.usedPort.toInt.toNat, path := "/ws".toList
          query := Query.joinQuery (encodedParameters authToken createStatus protocol) } := by
  have hscheme : ∀ c ∈ 'w' :: (if e.ssl then ['s', 's'] else ['s']), c.isAlphanum = true := by
    rw [← List.all_eq_true]
    cases e.ssl <;> decide
  have hpath : ∀ c ∈ '/' :: ['w', 's'], Uri.isPathCharacter c = true := by
    rw [← List.all_eq_true]
    decide
  rw [connectUrl_eq, Uri.parse_url (by decide) hscheme (isAuthorityCharacter_authority e) hpath
    (isQueryCharacter_joinQuery
      (percentEncoded_encodedParameters authToken createStatus protocol)),
    splitAuthority_toString hhost hport]
  cases e.ssl <;> rfl

/-- `NClientWrapper::createRtClient` and `NClient_createRtClientEx`, which has no transport among
its parameters. -/
def NClientWrapper.createRtClient {τ : Type} (createDefaultWebsocket : Option τ)
    (p : NClientParameters) (h : p.Named) (port : Int32) (_transport : Option τ) :
    Option (RtClientArguments τ) :=
  BaseClient.createRtClient createDefaultWebsocket p.crossed (named_crossed h) port none

/-- `DEFAULT_PORT`, or a port. -/
def ValidPort (port : Int32) : Prop := port = defaultPort ∨ 0 ≤ port

instance (port : Int32) : Decidable (ValidPort port) := inferInstanceAs (Decidable (_ ∨ _))

theorem ValidPort.nonneg {port : Int32} (h : ValidPort port) (ssl : Bool) :
    0 ≤ if port = defaultPort then if ssl then (443 : Int32) else 7350 else port := by
  split
  · cases ssl <;> decide
  · next hne => exact h.resolve_left hne

/-- The URL leads to the host, in lower case, and to the port. -/
def LeadsTo (url host : List Char) (port : Int32) : Prop :=
  ∃ u, Uri.parse url = some u ∧ u.host = host.map Char.toLower ∧ u.userInfo = [] ∧
    u.port = port.toInt.toNat

theorem baseUrl_leadsTo {p : NClientParameters} (h : p.Named) (hport : 0 ≤ RestClient.port p) :
    LeadsTo (RestClient.baseUrl p) p.host (RestClient.port p) :=
  ⟨_, parse_baseUrl h hport, rfl, rfl, rfl⟩

theorem connectUrl_leadsTo {e : Endpoint} (hhost : '@' ∉ e.host) (hport : 0 ≤ e.usedPort)
    (authToken : List UInt8) (createStatus : Bool) (protocol : NRtClientProtocol) :
    LeadsTo (connectUrl e authToken createStatus protocol) e.host e.usedPort :=
  ⟨_, parse_connectUrl hhost hport authToken createStatus protocol, rfl, rfl, rfl⟩

/-- **Host and port.**  The URLs of a client, over HTTP and of its realtime clients, lead to its
host and to the port that it uses.  Those of a client that is made through C are the same; its
realtime clients are those that are made without a transport. -/
theorem server_named {τ : Type} (createDefaultWebsocket : Option τ) {p : NClientParameters}
    (h : p.Named) (hport : ValidPort p.port) {port : Int32} (hrt : ValidPort port) :
    LeadsTo (RestClient.baseUrl p) p.host (RestClient.port p) ∧
      (∀ transport c,
        BaseClient.createRtClient createDefaultWebsocket p h port transport = some c →
          transport.or createDefaultWebsocket = some c.transport ∧
          ∀ authToken createStatus protocol,
            LeadsTo (connectUrl c.endpoint authToken createStatus protocol) p.host
              (if port = defaultPort then if p.ssl then 443 else 7350 else port)) ∧
      RestClient.baseUrl p.crossed = RestClient.baseUrl p ∧
      GrpcClient.target p.crossed = GrpcClient.target p ∧
      ∀ transport, NClientWrapper.createRtClient createDefaultWebsocket p h port transport =
        BaseClient.createRtClient createDefaultWebsocket p h port none := by
  have hcrossed := host_crossed h
  refine ⟨baseUrl_leadsTo h (hport.nonneg p.ssl), fun transport c hc => ?_, ?_, ?_,
    fun transport => ?_⟩
  · obtain ⟨transport', htransport, rfl⟩ := Option.map_eq_some_iff.1 hc
    refine ⟨htransport, fun authToken createStatus protocol => ?_⟩
    have hused : (⟨p.host, port, p.ssl, h.1⟩ : Endpoint).usedPort =
        if port = defaultPort then if p.ssl then 443 else 7350 else port := by
      unfold Endpoint.usedPort defaultPort
      rfl
    have hnonneg := hrt.nonneg p.ssl
    rw [← hused] at hnonneg ⊢
    exact connectUrl_leadsTo h.2 hnonneg authToken createStatus protocol
  · unfold RestClient.baseUrl
    rw [hcrossed]
    rfl
  · unfold GrpcClient.target
    rw [hcrossed]
    rfl
  · simp only [NClientWrapper.createRtClient, BaseClient.createRtClient, hcrossed]
    rfl

/-- A server on another port than its own, and with a name. -/
def exampleServer : NClientParameters where
  host := "Game.Example.com".toList
  port := 7450
  ssl := true

theorem named_exampleServer : exampleServer.Named := by
  refine ⟨?_, by decide⟩
  show ∀ c ∈ "Game.Example.com".toList, _
  rw [← List.all_eq_true]
  decide

theorem server_named_example :
    LeadsTo (RestClient.baseUrl exampleServer) exampleServer.host (RestClient.port exampleServer) ∧
      (∀ (transport : Option Nat) (c : RtClientArguments Nat),
        BaseClient.createRtClient (some 0) exampleServer named_exampleServer defaultPort transport =
            some c →
          transport.or (some 0) = some c.transport ∧
          ∀ authToken createStatus protocol,
            LeadsTo (connectUrl c.endpoint authToken createStatus protocol) exampleServer.host
              (if defaultPort = defaultPort then if exampleServer.ssl then 443 else 7350
                else defaultPort)) ∧
      RestClient.baseUrl exampleServer.crossed = RestClient.baseUrl exampleServer ∧
      GrpcClient.target exampleServer.crossed = GrpcClient.target exampleServer ∧
      ∀ transport : Option Nat,
        NClientWrapper.createRtClient (some 0) exampleServer named_exampleServer defaultPort
            transport =
          BaseClient.createRtClient (some 0) exampleServer named_exampleServer defaultPort none :=
  server_named (some 0) named_exampleServer (by decide) (by decide)

end NakamaCpp.Rest
