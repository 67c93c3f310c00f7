import NakamaCpp.Http.Uri
import NakamaCpp.Lib.Decimal
import NakamaCpp.Lib.Query

/-!
# The URL of a realtime connection

`urlEncode` of src/StrUtil.cpp and the URL that `NRtClient::connect` of src/realtime/NRtClient.cpp
builds with it.  A `char` is signed, and `sprintf` prints it as an `int`: a byte from 128 up is
written with the digits of its sign extension.

    urlEncode s decodes to s, and every URL with s as token has the parameters it was built of
      ↔  every byte of s is below 128                                     (urlEncode_exact_iff)
-/

namespace NakamaCpp.Realtime

open Transcode JsonText Query Http

/-! ## Encoding -/

/-- `sprintf("%X", c)` of a `char`, which is promoted to `int` and printed as `unsigned`. -/
def printHex (c : UInt8) : List Char :=
  (Nat.toDigits 16 c.toInt8.toInt32.toUInt32.toNat).map Char.toUpper

/-- `isalnum` in the C locale, or one of the four marks. -/
def staysPlain (c : UInt8) : Bool :=
  (Char.ofNat c.toNat).isAlphanum || c == 0x2d || c == 0x5f || c == 0x2e || c == 0x7e

/-- The loop body of `urlEncode`. -/
def urlEncodeChar (c : UInt8) : List Char :=
  if staysPlain c then [Char.ofNat c.toNat]
  else (if c < 16 then ['%', '0'] else ['%']) ++ printHex c

def urlEncode (str : List UInt8) : List Char := str.flatMap urlEncodeChar

example : urlEncode [0x61, 0x20, 0x09, 0xe9] = "a%20%09%FFFFFFE9".toList := by decide

/-! ## One byte -/

/-- Below 128 a byte stays as it is, or becomes a triplet with its value. -/
theorem urlEncodeChar_ascii : ∀ n, n < 128 →
    urlEncodeChar (UInt8.ofNat n) = [Char.ofNat n] ∧ isUnreserved (Char.ofNat n) = true ∨
    urlEncodeChar (UInt8.ofNat n) = ['%', Uri.hexDigit (n / 16), Uri.hexDigit (n % 16)] := by
  decide +kernel

/-- From 128 up the digits of the byte follow those of its sign. -/
theorem urlEncodeChar_negative : ∀ n, 128 ≤ n → n < 256 →
    urlEncodeChar (UInt8.ofNat n) =
      ['%', 'F', 'F', 'F', 'F', 'F', 'F', Uri.hexDigit (n / 16), Uri.hexDigit (n % 16)] := by
  intro n hge hlt
  have h : ∀ m, m < 128 → urlEncodeChar (UInt8.ofNat (128 + m)) = ['%', 'F', 'F', 'F', 'F', 'F', 'F',
      Uri.hexDigit ((128 + m) / 16), Uri.hexDigit ((128 + m) % 16)] := by
    decide +kernel
  have hm := h (n - 128) (by omega)
  rwa [Nat.add_sub_cancel' hge] at hm

theorem hexValue_hexDigit : ∀ n, n < 16 → hexValue (Uri.hexDigit n) = some n := by decide

theorem isUnreserved_hexDigit : ∀ n, n < 16 → isUnreserved (Uri.hexDigit n) = true := by decide

/-- What is read back for a byte. -/
def readBack (c : UInt8) : List UInt8 :=
  if c < 128 then [c]
  else 0xFF :: bytes ['F', 'F', 'F', 'F', Uri.hexDigit (c.toNat / 16), Uri.hexDigit (c.toNat % 16)]

/-- An unreserved character is read as it is. -/
theorem decode_unreserved {c : Char} (h : isUnreserved c = true) (cs : List Char) :
    decode (c :: cs) = (decode cs).map fun ds => UInt8.ofNat c.toNat :: ds := by
  obtain ⟨hlt, hpercent, -⟩ := isUnreserved_lt h
  apply decode_cons (by omega)
  rintro rfl
  exact hpercent rfl

theorem decode_urlEncodeChar (c : UInt8) (cs : List Char) :
    decode (urlEncodeChar c ++ cs) = (decode cs).map fun ds => readBack c ++ ds := by
  have hlt : c.toNat < 256 := c.toNat_lt
  have hc : UInt8.ofNat c.toNat = c := UInt8.ofNat_toNat
  have hvalue : c.toNat / 16 * 16 + c.toNat % 16 = c.toNat := Nat.div_add_mod' _ _
  have hhi : c.toNat / 16 < 16 := by omega
  have hlo : c.toNat % 16 < 16 := Nat.mod_lt _ (by decide)
  by_cases hs : c.toNat < 128
  · have hback : readBack c = [c] := if_pos (UInt8.lt_iff_toNat_lt.2 hs)
    rw [hback]
    rcases urlEncodeChar_ascii c.toNat hs with ⟨he, hu⟩ | he
    · rw [hc] at he
      rw [he, List.singleton_append, decode_unreserved hu, toNat_ofNat_byte _ hlt, hc]
      rfl
    · rw [hc] at he
      rw [he, List.cons_append, List.cons_append, List.singleton_append,
        decode_triplet (hexValue_hexDigit _ hhi) (hexValue_hexDigit _ hlo), hvalue, hc]
      rfl
  · have hback : readBack c = 0xFF :: bytes ['F', 'F', 'F', 'F', Uri.hexDigit (c.toNat / 16),
        Uri.hexDigit (c.toNat % 16)] := if_neg fun h => hs (UInt8.lt_iff_toNat_lt.1 h)
    have he := urlEncodeChar_negative c.toNat (Nat.not_lt.1 hs) hlt
    have hF : isUnreserved 'F' = true := by decide
    rw [hc] at he
    rw [he, hback]
    simp only [List.cons_append, List.nil_append]
    rw [decode_triplet (a := 15) (b := 15) (by decide) (by decide)]
    simp only [decode_unreserved hF, decode_unreserved (isUnreserved_hexDigit _ hhi),
      decode_unreserved (isUnreserved_hexDigit _ hlo), Option.map_map]
    rfl

/-! ## A text -/

theorem decode_urlEncode (str : List UInt8) :
    decode (urlEncode str) = some (str.flatMap readBack) := by
  induction str with
  | nil => rfl
  | cons c str ih =>
    show decode (urlEncodeChar c ++ urlEncode str) = _
    rw [decode_urlEncodeChar, ih]
    rfl

theorem percentEncoded_urlEncodeChar (c : UInt8) : PercentEncoded (urlEncodeChar c) := by
  have hlt : c.toNat < 256 := c.toNat_lt
  have hc : UInt8.ofNat c.toNat = c := UInt8.ofNat_toNat
  have hhi : c.toNat / 16 < 16 := by omega
  have hlo : c.toNat % 16 < 16 := Nat.mod_lt _ (by decide)
  have hhex : ∀ n, n < 16 → isHexDigit (Uri.hexDigit n) = true := by
    intro n hn
    rw [isHexDigit, hexValue_hexDigit n hn]
    rfl
  have hF : isUnreserved 'F' = true := by decide
  by_cases hs : c.toNat < 128
  · have he := urlEncodeChar_ascii c.toNat hs
    rw [hc] at he
    rcases he with ⟨he, hu⟩ | he
    · rw [he]
      exact .unreserved hu .nil
    · rw [he]
      exact .triplet (hhex _ hhi) (hhex _ hlo) .nil
  · have he := urlEncodeChar_negative c.toNat (Nat.not_lt.1 hs) hlt
    rw [hc] at he
    rw [he]
    -- the triplet of the sign, four more of its digits, and the digits of the byte
    apply PercentEncoded.triplet (by decide) (by decide)
    apply PercentEncoded.unreserved hF
    apply PercentEncoded.unreserved hF
    apply PercentEncoded.unreserved hF
    apply PercentEncoded.unreserved hF
    apply PercentEncoded.unreserved (isUnreserved_hexDigit _ hhi)
    exact .unreserved (isUnreserved_hexDigit _ hlo) .nil

/-- The text is well formed in any case. -/
theorem percentEncoded_urlEncode (str : List UInt8) : PercentEncoded (urlEncode str) := by
  induction str with
  | nil => exact .nil
  | cons c str ih => exact (percentEncoded_urlEncodeChar c).append ih

theorem length_readBack (c : UInt8) : (readBack c).length = if c < 128 then 1 else 7 := by
  unfold readBack
  split <;> rfl

theorem flatMap_readBack_eq_iff (str : List UInt8) :
    str.flatMap readBack = str ↔ ∀ c ∈ str, c < 128 := by
  have hlen : ∀ s : List UInt8, s.length ≤ (s.flatMap readBack).length := by
    intro s
    induction s with
    | nil => exact le_rfl
    | cons c s ih =>
      have hc := length_readBack c
      rw [List.flatMap_cons, List.length_append, List.length_cons]
      split at hc <;> omega
  induction str with
  | nil => simp
  | cons c str ih =>
    rw [List.flatMap_cons, List.forall_mem_cons]
    by_cases hs : c < 128
    · have hback : readBack c = [c] := if_pos hs
      rw [hback, List.singleton_append, List.cons.injEq]
      exact ⟨fun h => ⟨hs, ih.1 h.2⟩, fun h => ⟨rfl, ih.2 h.2⟩⟩
    · apply iff_of_false
      · intro h
        have hl := congrArg List.length h
        have hc := length_readBack c
        have hrest := hlen str
        rw [if_neg hs] at hc
        rw [List.length_append, List.length_cons] at hl
        omega
      · exact fun h => hs h.1

/-! ## The URL -/

inductive NRtClientProtocol
  | protobuf
  | json
deriving DecidableEq, Repr

/-- `_host`, `_port` and `_ssl`; a host has only characters that an authority may have. -/
structure Endpoint where
  host : List Char
  port : Int32
  ssl : Bool
  legal : ∀ c ∈ host, Uri.isAuthorityCharacter c = true

/-- `_port`, where -1 is `DEFAULT_PORT`. -/
def Endpoint.usedPort (e : Endpoint) : Int32 :=
  if e.port = -1 then if e.ssl then 443 else 7350 else e.port

/-- The URL that `NRtClient::connect` builds for a session with the given auth token. -/
def connectUrl (e : Endpoint) (authToken : List UInt8) (createStatus : Bool)
    (protocol : NRtClientProtocol) : List Char :=
  (if e.ssl then "wss://".toList else "ws://".toList) ++ e.host ++ ":".toList ++
    (toString e.usedPort).toList ++ "/ws".toList ++ "?token=".toList ++ urlEncode authToken ++
    "&status=".toList ++ (if createStatus then "true".toList else "false".toList) ++
    match protocol with
    | .protobuf => "&format=protobuf".toList
    | .json => []

/-- The parameters that are put into it. -/
def connectParameters (authToken : List UInt8) (createStatus : Bool) (protocol : NRtClientProtocol) :
    List (List UInt8 × List UInt8) :=
  [(bytes "token".toList, authToken),
    (bytes "status".toList, bytes (if createStatus then "true" else "false").toList)] ++
    match protocol with
    | .protobuf => [(bytes "format".toList, bytes "protobuf".toList)]
    | .json => []

/-- The parameters of a URL. -/
def urlParameters (url : List Char) : Option (List (List UInt8 × List UInt8)) := do
  parameters (← Uri.parse url).query

/-- The parameters as the URL has them. -/
def encodedParameters (authToken : List UInt8) (createStatus : Bool) (protocol : NRtClientProtocol) :
    List (List Char × List Char) :=
  [("token".toList, urlEncode authToken),
    ("status".toList, (if createStatus then "true" else "false").toList)] ++
    match protocol with
    | .protobuf => [("format".toList, "protobuf".toList)]
    | .json => []

theorem connectUrl_eq (e : Endpoint) (authToken : List UInt8) (createStatus : Bool)
    (protocol : NRtClientProtocol) :
    connectUrl e authToken createStatus protocol =
      'w' :: (if e.ssl then ['s', 's'] else ['s']) ++ ':' :: '/' :: '/' ::
        ((e.host ++ ':' :: (toString e.usedPort).toList) ++ '/' :: (['w', 's'] ++
          '?' :: joinQuery (encodedParameters authToken createStatus protocol))) := by
  unfold connectUrl encodedParameters joinQuery joinParameter
  cases e.ssl <;> cases createStatus <;> cases protocol <;>
    simp [List.intercalate, List.intersperse]

theorem isQueryCharacter_of_unreserved {c : Char} (h : isUnreserved c = true ∨ c = '%') :
    Uri.isQueryCharacter c = true := by
  rcases h with h | rfl
  · unfold Uri.isQueryCharacter Uri.isPathCharacter
    rw [h]
    rfl
  · decide

theorem percentEncoded_word : ∀ w ∈ ["token", "status", "true", "false", "format", "protobuf"],
    PercentEncoded w.toList := by
  have h : ∀ w ∈ ["token", "status", "true", "false", "format", "protobuf"], Unreserved w := by
    decide +kernel
  exact fun w hw => percentEncoded_of_unreserved (h w hw)

/-- Names and values of the encoded parameters are percent-encoded. -/
theorem percentEncoded_encodedParameters (authToken : List UInt8) (createStatus : Bool)
    (protocol : NRtClientProtocol) :
    ∀ p ∈ encodedParameters authToken createStatus protocol,
      PercentEncoded p.1 ∧ PercentEncoded p.2 := by
  have hstatus : PercentEncoded (if createStatus then "true" else "false").toList := by
    cases createStatus
    · exact percentEncoded_word "false" (by simp)
    · exact percentEncoded_word "true" (by simp)
  unfold encodedParameters
  rw [List.cons_append, List.cons_append, List.nil_append, List.forall_mem_cons,
    List.forall_mem_cons]
  refine ⟨⟨percentEncoded_word "token" (by simp), percentEncoded_urlEncode authToken⟩,
    ⟨percentEncoded_word "status" (by simp), hstatus⟩, ?_⟩
  cases protocol with
  | protobuf =>
    rw [List.forall_mem_singleton]
    exact ⟨percentEncoded_word "format" (by simp), percentEncoded_word "protobuf" (by simp)⟩
  | json =>
    intro p hp
    cases hp

theorem isQueryCharacter_joinQuery {ps : List (List Char × List Char)}
    (h : ∀ p ∈ ps, PercentEncoded p.1 ∧ PercentEncoded p.2) :
    ∀ c ∈ joinQuery ps, Uri.isQueryCharacter c = true := by
  have hpart : ∀ part ∈ ps.map joinParameter, ∀ c ∈ part, Uri.isQueryCharacter c = true := by
    intro part hpart c hc
    obtain ⟨p, hp, rfl⟩ := List.mem_map.1 hpart
    unfold joinParameter at hc
    rw [List.mem_append, List.mem_cons] at hc
    rcases hc with hc | rfl | hc
    · exact isQueryCharacter_of_unreserved ((h p hp).1.unreserved_or c hc)
    · decide
    · exact isQueryCharacter_of_unreserved ((h p hp).2.unreserved_or c hc)
  unfold joinQuery
  generalize ps.map joinParameter = parts at hpart
  induction parts with
  | nil =>
    intro c hc
    cases hc
  | cons part parts ih =>
    rw [List.forall_mem_cons] at hpart
    cases parts with
    | nil =>
      rw [List.intercalate_singleton]
      exact hpart.1
    | cons next parts =>
      rw [List.intercalate_cons_cons]
      intro c hc
      rw [List.mem_append, List.mem_append, List.mem_singleton] at hc
      rcases hc with (hc | rfl) | hc
      · exact hpart.1 c hc
      · decide
      · exact ih hpart.2 c hc

theorem isAuthorityCharacter_toString (n : Int32) :
    ∀ c ∈ (toString n).toList, Uri.isAuthorityCharacter c = true := by
  have hdigit : ∀ c : Char, c.isDigit = true → Uri.isAuthorityCharacter c = true := by
    intro c hc
    unfold Uri.isAuthorityCharacter isUnreserved Char.isAlphanum
    rw [hc]
    simp
  have hdigits : ∀ c ∈ Nat.toDigits 10 n.toInt.natAbs, Uri.isAuthorityCharacter c = true :=
    fun c hc => hdigit c (Nat.isDigit_of_mem_toDigits (by decide) (by decide) hc)
  have ht : toString n = toString n.toInt := rfl
  rw [ht, CppStd.toList_toString]
  split
  · rw [List.forall_mem_cons]
    exact ⟨by decide, hdigits⟩
  · exact hdigits

theorem isAuthorityCharacter_authority (e : Endpoint) :
    ∀ c ∈ e.host ++ ':' :: (toString e.usedPort).toList, Uri.isAuthorityCharacter c = true := by
  intro c hc
  rw [List.mem_append, List.mem_cons] at hc
  rcases hc with hc | rfl | hc
  · exact e.legal c hc
  · decide
  · exact isAuthorityCharacter_toString e.usedPort c hc

/-- The query that the URL is parsed to. -/
theorem query_connectUrl (e : Endpoint) (authToken : List UInt8) (createStatus : Bool)
    (protocol : NRtClientProtocol) :
    (Uri.parse (connectUrl e authToken createStatus protocol)).map (fun u => u.query) =
      some (joinQuery (encodedParameters authToken createStatus protocol)) := by
  have hscheme : ∀ c ∈ 'w' :: (if e.ssl then ['s', 's'] else ['s']), c.isAlphanum = true := by
    rw [← List.all_eq_true]
    cases e.ssl <;> decide
  have hpath : ∀ c ∈ '/' :: ['w', 's'], Uri.isPathCharacter c = true := by
    rw [← List.all_eq_true]
    decide
  have hparse := Uri.parse_absolute (by decide) hscheme (isAuthorityCharacter_authority e) hpath
    (isQueryCharacter_joinQuery
      (percentEncoded_encodedParameters authToken createStatus protocol))
  rw [← connectUrl_eq] at hparse
  obtain ⟨u, hu, hpair⟩ := Option.map_eq_some_iff.1 hparse
  rw [hu, Option.map_some, (Prod.mk.inj hpair).2]

theorem decode_word : ∀ w ∈ ["token", "status", "true", "false", "format", "protobuf"],
    decode w.toList = some (bytes w.toList) := by
  decide +kernel

theorem decodes_encodedParameters (authToken : List UInt8) (createStatus : Bool)
    (protocol : NRtClientProtocol) :
    List.Forall₂ Decodes (encodedParameters authToken createStatus protocol)
      (connectParameters (authToken.flatMap readBack) createStatus protocol) := by
  have hstatus : decode (if createStatus then "true" else "false").toList =
      some (bytes (if createStatus then "true" else "false").toList) := by
    split
    · exact decode_word "true" (by simp)
    · exact decode_word "false" (by simp)
  apply List.Forall₂.cons ⟨decode_word "token" (by simp), decode_urlEncode authToken⟩
  apply List.Forall₂.cons ⟨decode_word "status" (by simp), hstatus⟩
  cases protocol with
  | protobuf => exact .cons ⟨decode_word "format" (by simp), decode_word "protobuf" (by simp)⟩ .nil
  | json => exact .nil

/-- What the URL is read back to. -/
theorem urlParameters_connectUrl (e : Endpoint) (authToken : List UInt8) (createStatus : Bool)
    (protocol : NRtClientProtocol) :
    urlParameters (connectUrl e authToken createStatus protocol) =
      some (connectParameters (authToken.flatMap readBack) createStatus protocol) := by
  have hseparable : ∀ p ∈ encodedParameters authToken createStatus protocol, Separable p := by
    intro p hp
    obtain ⟨hname, hvalue⟩ := percentEncoded_encodedParameters authToken createStatus protocol p hp
    exact ⟨hname.not_mem (by decide) (by decide), hname.not_mem (by decide) (by decide),
      hvalue.not_mem (by decide) (by decide)⟩
  obtain ⟨u, hu, hquery⟩ := Option.map_eq_some_iff.1
    (query_connectUrl e authToken createStatus protocol)
  unfold urlParameters
  rw [hu, Option.bind_eq_bind, Option.bind_some, hquery]
  exact parameters_joinQuery (List.cons_ne_nil _ _) hseparable
    (decodes_encodedParameters authToken createStatus protocol)

/-- **Percent-encoding.**  A text is encoded well, and goes unharmed through every URL, exactly
when no byte of it is negative as a `char`. -/
theorem urlEncode_exact_iff (str : List UInt8) :
    (PercentEncoded (urlEncode str) ∧ decode (urlEncode str) = some str ∧
      ∀ (e : Endpoint) (createStatus : Bool) (protocol : NRtClientProtocol),
        urlParameters (connectUrl e str createStatus protocol) =
          some (connectParameters str createStatus protocol)) ↔
      ∀ c ∈ str, c < 128 := by
  rw [← flatMap_readBack_eq_iff]
  constructor
  · rintro ⟨-, hdecode, -⟩
    rw [decode_urlEncode] at hdecode
    exact Option.some.inj hdecode
  · intro h
    refine ⟨percentEncoded_urlEncode str, ?_, ?_⟩
    · rw [decode_urlEncode, h]
    · intro e createStatus protocol
      rw [urlParameters_connectUrl, h]

/-- One byte from 128 up is read back as seven. -/
theorem urlEncode_not_exact :
    decode (urlEncode [0xE9]) = some [0xFF, 0x46, 0x46, 0x46, 0x46, 0x45, 0x39] ∧
    ¬ (PercentEncoded (urlEncode [0xE9]) ∧ decode (urlEncode [0xE9]) = some [0xE9] ∧
      ∀ (e : Endpoint) (createStatus : Bool) (protocol : NRtClientProtocol),
        urlParameters (connectUrl e [0xE9] createStatus protocol) =
          some (connectParameters [0xE9] createStatus protocol)) := by
  have hdecode : decode (urlEncode [0xE9]) = some [0xFF, 0x46, 0x46, 0x46, 0x46, 0x45, 0x39] := by
    decide
  refine ⟨hdecode, ?_⟩
  rintro ⟨-, h, -⟩
  rw [hdecode] at h
  revert h
  decide

end NakamaCpp.Realtime
