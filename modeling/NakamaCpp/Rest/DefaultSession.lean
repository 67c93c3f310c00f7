import NakamaCpp.Lib.Base64
import NakamaCpp.Rest.RestResponse

/-!
# Sessions from tokens

Model of src/DefaultSession.cpp and of `base64Decode` of src/StrUtil.cpp.  A text is the string of
its bytes.  `none` is a failed assertion of rapidjson, as in `RestResponse.lean`.

    a token is safe  ↔  it has no payload, or its payload can be read            (tokenSafe_iff)
    p is the base64url of a session's payload  →
      (the session of h.p.s has what the payload says
        ↔  p is in the standard alphabet too and no string has a NUL, or the payload says nothing)
                                                                       (restoreSession_exact_iff)
-/

namespace NakamaCpp.Rest

open JsonText Std

/-! ## Strings of bytes -/

/-- The text with the given bytes. -/
def byteText (bs : List UInt8) : String := String.ofList (bs.map fun b => Char.ofNat b.toNat)

/-- `base64Decode`; `Base64Unescape` leaves nothing behind when it fails. -/
def base64Decode (base64str : String) : String :=
  match Base64.standardDecode base64str.toList with
  | some buffer => byteText buffer
  | none => ""

/-! ## The session -/

structure DefaultSession where
  token : String
  created : Bool
  createTime : UInt64
  expireTime : UInt64 := 0
  username : String := ""
  userId : String := ""
  vars : NStringMap := ∅

namespace DefaultSession

/-- The segment between the first two dots. -/
def payload (token : String) : Option String :=
  match token.splitOn "." with
  | _ :: payload :: _ :: _ => some payload
  | _ => none

/-- `HasMember` and then `operator[]`. -/
def member (document : Json) (name : String) : Option (Option Json) :=
  match document with
  | .obj members => some (members.lookup name)
  | _ => none

def isNumber : Json → Bool
  | .int _ | .dec _ _ => true
  | _ => false

def getUint64 : Json → Option UInt64
  | .int n => if 0 ≤ n ∧ n < 2 ^ 64 then some (UInt64.ofNat n.toNat) else none
  | _ => none

def readExpireTime (document : Json) : Option UInt64 := do
  match ← member document "exp" with
  | some jsonExp =>
    if isNumber jsonExp then do return (← getUint64 jsonExp) * 1000
    else return 0
  | none => return 0

/-- `usn` and `uid`. -/
def readString (document : Json) (name : String) : Option String := do
  match ← member document name with
  | some (.str s) => return cStr s
  | _ => return ""

/-- One pass of the loop over `vrs`: `emplace` keeps an entry that is there. -/
def addVariable (vars : NStringMap) (entry : String × Json) : NStringMap :=
  match entry.2 with
  | .str value => vars.insertIfNew (cStr entry.1) (cStr value)
  | _ => vars

def readVariables (document : Json) : Option NStringMap := do
  match ← member document "vrs" with
  | some (.obj object) => return object.foldl addVariable ∅
  | _ => return ∅

/-- The constructor, called at `now`. -/
def create (json : JsonLib) (token : String) (created : Bool) (now : UInt64) :
    Option DefaultSession :=
  let session : DefaultSession := { token, created, createTime := now }
  match payload token with
  | none => some session
  | some payload =>
    match json.parse (json.base64Decode payload) with
    | none => some session
    | some document => do
      return {
        session with
        expireTime := ← readExpireTime document
        username := ← readString document "usn"
        userId := ← readString document "uid"
        vars := ← readVariables document }

def isExpired (session : DefaultSession) (now : UInt64) : Bool := session.expireTime ≤ now

end DefaultSession

/-- `restoreSession`, called at `now`. -/
def restoreSession (json : JsonLib) (now : UInt64) (token : String) : Option DefaultSession :=
  DefaultSession.create json token false now

namespace DefaultSession

/-! ## Reading a document -/

/-- The JSON document in the payload, if there is one. -/
def document (json : JsonLib) (token : String) : Option Json :=
  (payload token).bind fun payload => json.parse (json.base64Decode payload)

theorem create_of_no_document {json : JsonLib} {token : String} (h : document json token = none)
    (created : Bool) (now : UInt64) :
    create json token created now = some { token, created, createTime := now } := by
  unfold document at h
  unfold create
  cases hp : payload token with
  | none => rfl
  | some payload =>
    rw [hp, Option.bind_some] at h
    simp only [h]

theorem create_of_document {json : JsonLib} {token : String} {doc : Json}
    (h : document json token = some doc) (created : Bool) (now : UInt64) :
    create json token created now = do
      return {
        token, created, createTime := now
        expireTime := ← readExpireTime doc
        username := ← readString doc "usn"
        userId := ← readString doc "uid"
        vars := ← readVariables doc } := by
  unfold document at h
  obtain ⟨payload, hp, hparse⟩ := Option.bind_eq_some_iff.1 h
  unfold create
  simp only [hp, hparse]

/-- A member that is a string, as `c_str()` shows it. -/
def stringMember (members : List (String × Json)) (name : String) : String :=
  match members.lookup name with
  | some (.str s) => cStr s
  | _ => ""

def varsOf (members : List (String × Json)) : NStringMap :=
  match members.lookup "vrs" with
  | some (.obj object) => object.foldl addVariable ∅
  | _ => ∅

theorem readString_obj (members : List (String × Json)) (name : String) :
    readString (.obj members) name = some (stringMember members name) := by
  unfold readString stringMember
  show (match members.lookup name with | some (.str s) => _ | _ => _ : Option String) = _
  split <;> rfl

theorem readVariables_obj (members : List (String × Json)) :
    readVariables (.obj members) = some (varsOf members) := by
  unfold readVariables varsOf
  show (match members.lookup "vrs" with | some (.obj object) => _ | _ => _ : Option NStringMap) = _
  split <;> rfl

/-- The time for the member `exp`.  What is not a number leaves it at 0, and a number has to be a
`uint64_t`. -/
def expTime : Option Json → Option UInt64
  | some (.int n) => if 0 ≤ n ∧ n < 2 ^ 64 then some (UInt64.ofNat n.toNat * 1000) else none
  | some (.dec _ _) => none
  | _ => some 0

theorem readExpireTime_obj (members : List (String × Json)) :
    readExpireTime (.obj members) = expTime (members.lookup "exp") := by
  unfold readExpireTime
  show (match members.lookup "exp" with | some jsonExp => _ | none => _ : Option UInt64) = _
  cases members.lookup "exp" with
  | none => rfl
  | some jsonExp =>
    cases jsonExp with
    | int n =>
      show (getUint64 (.int n)).bind (fun exp => some (exp * 1000)) = _
      unfold getUint64 expTime
      dsimp only
      split <;> rfl
    | _ => rfl

theorem create_eq_none {json : JsonLib} {token : String} {doc : Json}
    (h : document json token = some doc) (hexp : readExpireTime doc = none) (created : Bool)
    (now : UInt64) : create json token created now = none := by
  rw [create_of_document h, hexp]
  rfl

theorem create_of_obj {json : JsonLib} {token : String} {members : List (String × Json)}
    (h : document json token = some (.obj members)) {expireTime : UInt64}
    (hexp : readExpireTime (.obj members) = some expireTime) (created : Bool) (now : UInt64) :
    create json token created now = some {
      token, created, createTime := now, expireTime
      username := stringMember members "usn"
      userId := stringMember members "uid"
      vars := varsOf members } := by
  rw [create_of_document h, hexp, readString_obj, readString_obj, readVariables_obj]
  rfl

theorem built_of_no_document {json : JsonLib} {token : String} (h : document json token = none) :
    built json token = true := by
  unfold document payload at h
  unfold built
  generalize token.splitOn "." = parts at h ⊢
  rcases parts with _ | ⟨_, _ | ⟨payload, _ | ⟨_, _⟩⟩⟩
  · rfl
  · rfl
  · rfl
  · rw [Option.bind_some] at h
    simp only [h]

/-- `built` asks for what the time needs. -/
theorem built_of_document {json : JsonLib} {token : String} {doc : Json}
    (h : document json token = some doc) : built json token = (readExpireTime doc).isSome := by
  unfold document payload at h
  unfold built
  generalize token.splitOn "." = parts at h ⊢
  rcases parts with _ | ⟨_, _ | ⟨payload, _ | ⟨_, _⟩⟩⟩
  · cases h
  · cases h
  · cases h
  · rw [Option.bind_some] at h
    simp only [h]
    cases doc with
    | obj members =>
      rw [readExpireTime_obj]
      dsimp only
      cases members.lookup "exp" with
      | none => rfl
      | some jsonExp =>
        cases jsonExp with
        | int n =>
          show decide (0 ≤ n ∧ n < 2 ^ 64) = (expTime (some (.int n))).isSome
          by_cases hn : 0 ≤ n ∧ n < 2 ^ 64
          · rw [decide_eq_true hn, expTime, if_pos hn]
            rfl
          · rw [decide_eq_false hn, expTime, if_neg hn]
            rfl
        | _ => rfl
    | _ => rfl

/-- `built` says whether there is a session. -/
theorem built_eq (json : JsonLib) (token : String) (created : Bool) (now : UInt64) :
    built json token = (create json token created now).isSome := by
  cases hdoc : document json token with
  | none =>
    rw [built_of_no_document hdoc, create_of_no_document hdoc]
    rfl
  | some doc =>
    rw [built_of_document hdoc]
    cases doc with
    | obj members =>
      cases htime : readExpireTime (.obj members) with
      | none =>
        rw [create_eq_none hdoc htime]
        rfl
      | some expireTime =>
        rw [create_of_obj hdoc htime]
        rfl
    | _ =>
      rw [create_eq_none hdoc rfl]
      rfl

/-! ## Safe tokens -/

/-- The number of milliseconds, if `exp` is a number, is a `uint64_t`. -/
def ExpReadable : Option Json → Prop
  | some (.int n) => 0 ≤ n ∧ n * 1000 < 2 ^ 64
  | some (.dec _ _) => False
  | _ => True

/-- The payload is no JSON, or it is an object with a readable `exp`. -/
def TokenReadable (json : JsonLib) (token : String) : Prop :=
  document json token = none ∨
    ∃ members, document json token = some (.obj members) ∧ ExpReadable (members.lookup "exp")

/-- The product with 1000 is not taken modulo 2^64. -/
def NoWrap (jsonExp : Option Json) : Prop :=
  ∀ value exp, jsonExp = some value → getUint64 value = some exp →
    (exp * 1000).toNat = exp.toNat * 1000

/-- What the constructor does with any token. -/
structure TokenSafe (json : JsonLib) (token : String) (created : Bool) (now : UInt64) : Prop where
  accessors : (create json token created now).isSome = true
  noWrap : ∀ members, document json token = some (.obj members) → NoWrap (members.lookup "exp")
  undecoded : (∀ members, document json token ≠ some (.obj members)) →
    ∃ session, create json token created now = some session ∧ session.username = "" ∧
      session.userId = "" ∧ session.vars = ∅ ∧ session.expireTime = 0

theorem toNat_mul_1000_iff (exp : UInt64) :
    (exp * 1000).toNat = exp.toNat * 1000 ↔ exp.toNat * 1000 < 2 ^ 64 := by
  have hmul : (exp * 1000).toNat = exp.toNat * 1000 % 2 ^ 64 := UInt64.toNat_mul exp 1000
  rw [hmul]
  omega

theorem expReadable_iff (jsonExp : Option Json) :
    ExpReadable jsonExp ↔ (expTime jsonExp).isSome = true ∧ NoWrap jsonExp := by
  have hother : ∀ value : Json, getUint64 value = none → NoWrap (some value) := by
    rintro value hno _ exp ⟨⟩ hget
    rw [hno] at hget
    cases hget
  cases jsonExp with
  | none =>
    apply iff_of_true trivial
    refine ⟨rfl, ?_⟩
    rintro value exp ⟨⟩
  | some value =>
    cases value with
    | int n =>
      unfold ExpReadable expTime
      dsimp only
      by_cases hn : 0 ≤ n ∧ n < 2 ^ 64
      · have hget : getUint64 (.int n) = some (UInt64.ofNat n.toNat) := if_pos hn
        have hlt : n.toNat < 2 ^ 64 := by omega
        have hof : (UInt64.ofNat n.toNat).toNat = n.toNat := UInt64.toNat_ofNat_of_lt' hlt
        have hwrap : NoWrap (some (.int n)) ↔ n.toNat * 1000 < 2 ^ 64 := by
          rw [← hof, ← toNat_mul_1000_iff]
          constructor
          · exact fun h => h _ _ rfl hget
          · rintro h _ exp ⟨⟩ hexp
            rw [hget] at hexp
            obtain rfl := Option.some.inj hexp
            exact h
        rw [if_pos hn, hwrap]
        constructor
        · exact fun h => ⟨rfl, by omega⟩
        · exact fun h => ⟨hn.1, by omega⟩
      · rw [if_neg hn]
        apply iff_of_false
        · exact fun h => hn ⟨h.1, by omega⟩
        · rintro ⟨h, -⟩
          cases h
    | dec m e =>
      apply iff_of_false not_false
      rintro ⟨h, -⟩
      cases h
    | _ => exact iff_of_true trivial ⟨rfl, hother _ rfl⟩

/-- **Any token.**  The constructor stays within the preconditions of rapidjson and of its own
arithmetic exactly when the payload, if it is JSON, is an object with a readable `exp`. -/
theorem tokenSafe_iff (json : JsonLib) (token : String) (created : Bool) (now : UInt64) :
    TokenSafe json token created now ↔ TokenReadable json token := by
  constructor
  · rintro ⟨haccessors, hwrap, -⟩
    cases hdoc : document json token with
    | none => exact .inl hdoc
    | some doc =>
      cases doc with
      | obj members =>
        refine .inr ⟨members, hdoc, (expReadable_iff _).2 ⟨?_, hwrap members hdoc⟩⟩
        cases hexp : readExpireTime (.obj members) with
        | none =>
          rw [create_eq_none hdoc hexp] at haccessors
          cases haccessors
        | some expireTime =>
          rw [← readExpireTime_obj, hexp]
          rfl
      | _ =>
        rw [create_eq_none hdoc rfl] at haccessors
        cases haccessors
  · rintro (hdoc | ⟨members, hdoc, hexp⟩)
    · have hcreate := create_of_no_document hdoc created now
      refine ⟨?_, ?_, fun _ => ⟨_, hcreate, rfl, rfl, rfl, rfl⟩⟩
      · rw [hcreate]
        rfl
      · intro members hobj
        rw [hdoc] at hobj
        cases hobj
    · obtain ⟨hsome, hwrap⟩ := (expReadable_iff _).1 hexp
      rw [← readExpireTime_obj] at hsome
      obtain ⟨expireTime, htime⟩ := Option.isSome_iff_exists.1 hsome
      refine ⟨?_, ?_, fun hno => absurd hdoc (hno members)⟩
      · rw [create_of_obj hdoc htime]
        rfl
      · intro members' hobj
        rw [hdoc] at hobj
        obtain rfl := Json.obj.inj (Option.some.inj hobj)
        exact hwrap

/-- Libraries to which the only texts of JSON are an empty array and an `exp` of more than
2^64 milliseconds. -/
def arrayJson : JsonLib where
  parse text :=
    if text = "[]" then some (.arr [])
    else if text = "\x7b\"exp\":18446744073709552\x7d" then
      some (.obj [("exp", .int 18446744073709552)])
    else none
  toMessage _ _ := none
  sessionToken := id
  base64Decode := base64Decode

/-- The payload of a token that is made of three parts. -/
theorem payload_token {h p s : String} (hh : '.' ∉ h.toList) (hp : '.' ∉ p.toList) :
    payload (h ++ "." ++ p ++ "." ++ s) = some p := by
  have htext : (h ++ "." ++ p ++ "." ++ s).toList = h.toList ++ '.' :: (p.toList ++ '.' :: s.toList) := by
    simp [String.toList_append]
  have hsplit := Base64.splitOn_char (h ++ "." ++ p ++ "." ++ s) '.'
  rw [htext, List.splitOn_append_cons_self_of_not_mem hh, List.splitOn_append_cons_self_of_not_mem hp,
    List.map_cons, List.map_cons, String.ofList_toList, String.ofList_toList] at hsplit
  obtain ⟨next, rest, hrest⟩ := List.exists_cons_of_ne_nil (List.splitOn_ne_nil '.' s.toList)
  have hdot : String.ofList ['.'] = "." := rfl
  unfold payload
  rw [← hdot, hsplit, hrest]
  rfl

/-- The payload of the first token is an array, and the time of the second one is 384 ms. -/
theorem token_not_safe :
    create arrayJson ("e30" ++ "." ++ "W10" ++ "." ++ "s") false 0 = none ∧
    ¬ TokenSafe arrayJson ("e30" ++ "." ++ "W10" ++ "." ++ "s") false 0 ∧
    (create arrayJson ("e30" ++ "." ++ "eyJleHAiOjE4NDQ2NzQ0MDczNzA5NTUyfQ" ++ "." ++ "s") false
      0).map (fun session => session.expireTime) = some 384 ∧
    ¬ TokenSafe arrayJson ("e30" ++ "." ++ "eyJleHAiOjE4NDQ2NzQ0MDczNzA5NTUyfQ" ++ "." ++ "s") false
      0 := by
  have harray : document arrayJson ("e30" ++ "." ++ "W10" ++ "." ++ "s") = some (.arr []) := by
    have hbody : base64Decode "W10" = "[]" := by decide
    unfold document
    rw [payload_token (by decide) (by decide), Option.bind_some]
    show arrayJson.parse (base64Decode "W10") = _
    rw [hbody]
    rfl
  have hexp : document arrayJson ("e30" ++ "." ++ "eyJleHAiOjE4NDQ2NzQ0MDczNzA5NTUyfQ" ++ "." ++ "s") =
      some (.obj [("exp", .int 18446744073709552)]) := by
    have hbody : base64Decode "eyJleHAiOjE4NDQ2NzQ0MDczNzA5NTUyfQ" =
        "\x7b\"exp\":18446744073709552\x7d" := by decide
    unfold document
    rw [payload_token (by decide) (by decide), Option.bind_some]
    show arrayJson.parse (base64Decode "eyJleHAiOjE4NDQ2NzQ0MDczNzA5NTUyfQ") = _
    rw [hbody]
    rfl
  have hcreate := create_eq_none harray rfl false 0
  have htime : readExpireTime (.obj [("exp", .int 18446744073709552)]) = some 384 := by
    rw [readExpireTime_obj]
    rfl
  refine ⟨hcreate, ?_, ?_, ?_⟩
  · intro h
    have := h.accessors
    rw [hcreate] at this
    cases this
  · rw [create_of_obj hexp htime]
    rfl
  · intro h
    have := h.noWrap _ hexp (.int 18446744073709552) 18446744073709552 rfl rfl
    revert this
    decide

end DefaultSession

/-! ## Exact sessions -/

/-- The entries of a map in the order they are emplaced. -/
def emplaceAll (entries : List (String × String)) : NStringMap :=
  entries.foldl (fun vars entry => vars.insertIfNew entry.1 entry.2) ∅

/-- What the payload of a session token says; the names of its variables are distinct. -/
structure SessionPayload where
  exp : Nat
  usn : String
  uid : String
  vrs : Option (List (String × String))
  bound : exp ≤ (2 ^ 64 - 1) / 1000
  distinct : ((vrs.getD []).map Prod.fst).Nodup

namespace SessionPayload

def vars (p : SessionPayload) : NStringMap := emplaceAll (p.vrs.getD [])

/-- The members of the JSON object that says it. -/
structure SaidBy (p : SessionPayload) (members : List (String × Json)) : Prop where
  exp : members.lookup "exp" = some (.int p.exp)
  usn : members.lookup "usn" = some (.str p.usn)
  uid : members.lookup "uid" = some (.str p.uid)
  vrs : members.lookup "vrs" = p.vrs.map fun entries => .obj (entries.map fun e => (e.1, .str e.2))

/-- No string has a NUL. -/
def NulFree (p : SessionPayload) : Prop :=
  '\x00' ∉ p.usn.toList ∧ '\x00' ∉ p.uid.toList ∧
    ∀ e ∈ p.vrs.getD [], '\x00' ∉ e.1.toList ∧ '\x00' ∉ e.2.toList

/-- It says what a session says that has not been read from anything. -/
def Blank (p : SessionPayload) : Prop :=
  p.exp = 0 ∧ p.usn = "" ∧ p.uid = "" ∧ p.vrs.getD [] = []

/-- The session has exactly what the payload says. -/
structure Exact (p : SessionPayload) (session : DefaultSession) : Prop where
  expireTime : session.expireTime.toNat = p.exp * 1000
  username : session.username = p.usn
  userId : session.userId = p.uid
  vars : session.vars = p.vars
  isExpired : ∀ now, session.isExpired now = true ↔ p.exp * 1000 ≤ now.toNat

end SessionPayload

theorem getElem?_emplaceAll (entries : List (String × String)) (k : String) :
    (emplaceAll entries)[k]? = entries.lookup k := by
  have h : ∀ (l : List (String × String)) (vars : NStringMap),
      (l.foldl (fun vars entry => vars.insertIfNew entry.1 entry.2) vars)[k]? =
        vars[k]?.or (l.lookup k) := by
    intro l
    induction l with
    | nil =>
      intro vars
      rw [List.foldl_nil, List.lookup_nil, Option.or_none]
    | cons e l ih =>
      intro vars
      rw [List.foldl_cons, ih, ExtTreeMap.getElem?_insertIfNew, List.lookup_cons]
      by_cases hk : e.1 = k
      · subst hk
        cases hm : vars[e.1]? with
        | none =>
          have hno : e.1 ∉ vars := by
            rw [ExtTreeMap.mem_iff_isSome_getElem?, hm]
            simp
          simp [hno]
        | some v =>
          have hmem : e.1 ∈ vars := by
            rw [ExtTreeMap.mem_iff_isSome_getElem?, hm]
            rfl
          simp [hmem]
      · have hne : ¬ compare e.1 k = .eq := fun h => hk (LawfulEqCmp.eq_of_compare h)
        have hbeq : (k == e.1) = false := beq_eq_false_iff_ne.2 (Ne.symm hk)
        rw [if_neg fun h => hne h.1, hbeq]
  rw [emplaceAll, h, ExtTreeMap.getElem?_empty, Option.none_or]

/-- An entry under distinct names is found. -/
theorem lookup_of_mem {entries : List (String × String)} (h : (entries.map Prod.fst).Nodup)
    {e : String × String} (he : e ∈ entries) : entries.lookup e.1 = some e.2 := by
  induction entries with
  | nil => cases he
  | cons d entries ih =>
    rw [List.map_cons, List.nodup_cons] at h
    rw [List.lookup_cons]
    rcases List.mem_cons.1 he with rfl | he
    · rw [beq_self_eq_true]
    · have hne : e.1 ≠ d.1 := fun heq => h.1 (heq ▸ List.mem_map_of_mem he)
      rw [beq_eq_false_iff_ne.2 hne]
      exact ih h.2 he

theorem cStr_eq_iff (s : String) : cStr s = s ↔ '\x00' ∉ s.toList := by
  constructor
  · intro h
    rw [← h]
    exact nul_not_mem_cStr s
  · exact cStr_eq_self

/-- An entry whose texts went through `c_str()`. -/
def cutEntry (e : String × String) : String × String := (cStr e.1, cStr e.2)

theorem emplaceAll_cut_iff {entries : List (String × String)}
    (hdistinct : (entries.map Prod.fst).Nodup) :
    emplaceAll (entries.map cutEntry) = emplaceAll entries ↔
      ∀ e ∈ entries, '\x00' ∉ e.1.toList ∧ '\x00' ∉ e.2.toList := by
  constructor
  · intro h e he
    -- the entry is found in the cut map, so it is a cut entry
    have hfound := lookup_of_mem hdistinct he
    rw [← getElem?_emplaceAll, ← h, getElem?_emplaceAll, List.lookup_eq_some_iff] at hfound
    obtain ⟨before, after, hsplit, -⟩ := hfound
    have hmem : (e.1, e.2) ∈ entries.map cutEntry := by
      rw [hsplit]
      exact List.mem_append_right _ List.mem_cons_self
    obtain ⟨d, -, hd⟩ := List.mem_map.1 hmem
    obtain ⟨hname, hvalue⟩ := Prod.mk.inj hd
    rw [← hname, ← hvalue]
    exact ⟨nul_not_mem_cStr d.1, nul_not_mem_cStr d.2⟩
  · intro h
    have hself : ∀ e ∈ entries, cutEntry e = e := by
      intro e he
      obtain ⟨hname, hvalue⟩ := h e he
      rw [cutEntry, cStr_eq_self hname, cStr_eq_self hvalue]
    rw [List.map_congr_left hself, List.map_id']

theorem emplaceAll_eq_empty_iff (entries : List (String × String)) :
    emplaceAll entries = ∅ ↔ entries = [] := by
  constructor
  · intro h
    cases entries with
    | nil => rfl
    | cons e entries =>
      have hget := getElem?_emplaceAll (e :: entries) e.1
      rw [h, ExtTreeMap.getElem?_empty, List.lookup_cons_self] at hget
      cases hget
  · rintro rfl
    rfl

namespace DefaultSession

/-- The loop over `vrs` when all its values are strings. -/
theorem foldl_addVariable (entries : List (String × String)) (vars : NStringMap) :
    (entries.map fun e => (e.1, Json.str e.2)).foldl addVariable vars =
      (entries.map cutEntry).foldl (fun vars entry => vars.insertIfNew entry.1 entry.2) vars := by
  induction entries generalizing vars with
  | nil => rfl
  | cons e entries ih =>
    rw [List.map_cons, List.map_cons, List.foldl_cons, List.foldl_cons, ih]
    rfl

theorem varsOf_saidBy {p : SessionPayload} {members : List (String × Json)} (h : p.SaidBy members) :
    varsOf members = emplaceAll ((p.vrs.getD []).map cutEntry) := by
  unfold varsOf
  rw [h.vrs]
  cases p.vrs with
  | none => rfl
  | some entries => exact foldl_addVariable entries ∅

/-- The session of a payload that is read. -/
theorem create_saidBy {json : JsonLib} {token : String} {members : List (String × Json)}
    {p : SessionPayload} (hdoc : document json token = some (.obj members)) (h : p.SaidBy members)
    (created : Bool) (now : UInt64) :
    create json token created now = some {
      token, created, createTime := now
      expireTime := UInt64.ofNat p.exp * 1000
      username := cStr p.usn
      userId := cStr p.uid
      vars := emplaceAll ((p.vrs.getD []).map cutEntry) } := by
  have hexp : readExpireTime (.obj members) = some (UInt64.ofNat p.exp * 1000) := by
    have hbound := p.bound
    have hlt : (0 : Int) ≤ p.exp ∧ (p.exp : Int) < 2 ^ 64 := by omega
    rw [readExpireTime_obj, h.exp, expTime, if_pos hlt, Int.toNat_natCast]
  have husn : stringMember members "usn" = cStr p.usn := by
    unfold stringMember
    rw [h.usn]
  have huid : stringMember members "uid" = cStr p.uid := by
    unfold stringMember
    rw [h.uid]
  rw [create_of_obj hdoc hexp, husn, huid, varsOf_saidBy h]

end DefaultSession

/-- A token of the form h.p.s, where p is the base64url of the given bytes. -/
def sessionToken (h : String) (bytes : List UInt8) (s : String) : String :=
  h ++ "." ++ String.ofList (Base64.urlEncode bytes) ++ "." ++ s

theorem base64Decode_urlEncode (bytes : List UInt8) :
    base64Decode (String.ofList (Base64.urlEncode bytes)) =
      if Base64.Standard (Base64.urlEncode bytes) then byteText bytes else "" := by
  unfold base64Decode
  rw [String.toList_ofList, Base64.standardDecode_urlEncode]
  by_cases h : Base64.Standard (Base64.urlEncode bytes)
  · rw [if_pos h, if_pos h]
  · rw [if_neg h, if_neg h]

theorem document_sessionToken {json : JsonLib} (hdecode : json.base64Decode = base64Decode)
    (hempty : json.parse "" = none) {h : String} (hh : '.' ∉ h.toList) (bytes : List UInt8)
    (s : String) :
    DefaultSession.document json (sessionToken h bytes s) =
      if Base64.Standard (Base64.urlEncode bytes) then json.parse (byteText bytes) else none := by
  have hp : '.' ∉ (String.ofList (Base64.urlEncode bytes)).toList := by
    rw [String.toList_ofList]
    exact fun hm => (Base64.mem_urlEncode hm).2.1 rfl
  unfold DefaultSession.document sessionToken
  rw [DefaultSession.payload_token hh hp, Option.bind_some, hdecode, base64Decode_urlEncode]
  split
  · rfl
  · exact hempty

theorem isExpired_iff {session : DefaultSession} {n : Nat} (h : session.expireTime.toNat = n)
    (now : UInt64) : session.isExpired now = true ↔ n ≤ now.toNat := by
  unfold DefaultSession.isExpired
  rw [decide_eq_true_iff, UInt64.le_iff_toNat_le, h]

theorem toNat_expireTime (p : SessionPayload) : (UInt64.ofNat p.exp * 1000).toNat = p.exp * 1000 := by
  have hbound := p.bound
  have hof : (UInt64.ofNat p.exp).toNat = p.exp :=
    UInt64.toNat_ofNat_of_lt' (show p.exp < 2 ^ 64 by omega)
  have hlt : (UInt64.ofNat p.exp).toNat * 1000 < 2 ^ 64 := by
    rw [hof]
    omega
  rw [(DefaultSession.toNat_mul_1000_iff _).2 hlt, hof]

/-- **Session tokens.**  The session of a token has exactly what its payload says, when the
payload is also in the standard alphabet and has no NUL in a string, or when it says nothing; and
only then. -/
theorem restoreSession_exact_iff (json : JsonLib) (hdecode : json.base64Decode = base64Decode)
    (hempty : json.parse "" = none) (h s : String) (hh : '.' ∉ h.toList) (bytes : List UInt8)
    (members : List (String × Json)) (hparse : json.parse (byteText bytes) = some (.obj members))
    (p : SessionPayload) (hp : p.SaidBy members) (now : UInt64) :
    (∃ session, restoreSession json now (sessionToken h bytes s) = some session ∧
        p.Exact session) ↔
      Base64.Standard (Base64.urlEncode bytes) ∧ p.NulFree ∨ p.Blank := by
  have hdoc := document_sessionToken hdecode hempty hh bytes s
  by_cases hstandard : Base64.Standard (Base64.urlEncode bytes)
  · rw [if_pos hstandard, hparse] at hdoc
    have hcreate := DefaultSession.create_saidBy hdoc hp false now
    constructor
    · rintro ⟨session, hsession, hexact⟩
      obtain rfl := Option.some.inj (hcreate.symm.trans hsession)
      refine .inl ⟨hstandard, (cStr_eq_iff _).1 hexact.username, (cStr_eq_iff _).1 hexact.userId, ?_⟩
      exact (emplaceAll_cut_iff p.distinct).1 hexact.vars
    · intro hcondition
      have hnul : p.NulFree := by
        rcases hcondition with ⟨-, hnul⟩ | ⟨-, husn, huid, hvrs⟩
        · exact hnul
        · unfold SessionPayload.NulFree
          rw [husn, huid, hvrs]
          exact ⟨by decide, by decide, by simp⟩
      refine ⟨_, hcreate, ?_, ?_, ?_, ?_, ?_⟩
      · exact toNat_expireTime p
      · exact (cStr_eq_iff _).2 hnul.1
      · exact (cStr_eq_iff _).2 hnul.2.1
      · exact (emplaceAll_cut_iff p.distinct).2 hnul.2.2
      · exact isExpired_iff (toNat_expireTime p)
  · rw [if_neg hstandard] at hdoc
    have hcreate := DefaultSession.create_of_no_document hdoc false now
    constructor
    · rintro ⟨session, hsession, hexact⟩
      obtain rfl := Option.some.inj (hcreate.symm.trans hsession)
      have htime : 0 = p.exp * 1000 := hexact.expireTime
      refine .inr ⟨by omega, hexact.username.symm, hexact.userId.symm, ?_⟩
      exact (emplaceAll_eq_empty_iff _).1 hexact.vars.symm
    · rintro (⟨hyes, -⟩ | ⟨hexp, husn, huid, hvrs⟩)
      · exact absurd hyes hstandard
      · have htime : (0 : UInt64).toNat = p.exp * 1000 := by
          rw [hexp]
          rfl
        refine ⟨_, hcreate, htime, husn.symm, huid.symm, ?_, isExpired_iff htime⟩
        unfold SessionPayload.vars
        rw [hvrs]
        rfl

/-- The payloads of two sessions, of which only the second has a `_` in its base64url. -/
def annText : String := "\x7b\"exp\":1,\"usn\":\"ann\",\"uid\":\"u1\"\x7d"

def askText : String := "\x7b\"exp\":1,\"usn\":\"o?\",\"uid\":\"u\"\x7d"

/-- The bytes of a text of ASCII characters. -/
def asciiBytes (text : String) : List UInt8 := text.toList.map fun c => UInt8.ofNat c.toNat

/-- Libraries that know these two texts. -/
def sessionJson : JsonLib where
  parse text :=
    if text = annText then some (.obj [("exp", .int 1), ("usn", .str "ann"), ("uid", .str "u1")])
    else if text = askText then
      some (.obj [("exp", .int 1), ("usn", .str "o?"), ("uid", .str "u")])
    else none
  toMessage _ _ := none
  sessionToken := id
  base64Decode := base64Decode

theorem restoreSession_exact_iff_ann :
    ∃ session, restoreSession sessionJson 0 (sessionToken "e30" (asciiBytes annText) "s") =
        some session ∧
      SessionPayload.Exact ⟨1, "ann", "u1", none, by decide, by decide⟩ session := by
  have hparse : sessionJson.parse (byteText (asciiBytes annText)) =
      some (.obj [("exp", .int 1), ("usn", .str "ann"), ("uid", .str "u1")]) := by
    have htext : byteText (asciiBytes annText) = annText := by decide
    rw [htext]
    rfl
  have hstandard : Base64.Standard (Base64.urlEncode (asciiBytes annText)) := by decide
  exact (restoreSession_exact_iff sessionJson rfl rfl "e30" "s" (by decide) (asciiBytes annText) _ hparse
    ⟨1, "ann", "u1", none, by decide, by decide⟩ ⟨rfl, rfl, rfl, rfl⟩ 0).2
    (.inl ⟨hstandard, by decide, by decide, by decide⟩)

/-- The session of a token with a `_` in its payload is empty. -/
theorem session_not_exact :
    restoreSession sessionJson 0 (sessionToken "e30" (asciiBytes askText) "s") =
      some { token := sessionToken "e30" (asciiBytes askText) "s", created := false, createTime := 0 } ∧
    ¬ ∃ session, restoreSession sessionJson 0 (sessionToken "e30" (asciiBytes askText) "s") =
        some session ∧
      SessionPayload.Exact ⟨1, "o?", "u", none, by decide, by decide⟩ session := by
  have hstandard : ¬ Base64.Standard (Base64.urlEncode (asciiBytes askText)) := by decide
  have hh : '.' ∉ "e30".toList := by decide
  have hdecode : sessionJson.base64Decode = base64Decode := rfl
  have hdoc := document_sessionToken hdecode rfl hh (asciiBytes askText) "s"
  rw [if_neg hstandard] at hdoc
  have hcreate := DefaultSession.create_of_no_document hdoc false 0
  refine ⟨hcreate, ?_⟩
  rintro ⟨session, hsession, hexact⟩
  obtain rfl := Option.some.inj (hcreate.symm.trans hsession)
  have := hexact.userId
  revert this
  decide

end NakamaCpp.Rest
