import NakamaCpp.Lib.Json

/-!
# From an HTTP request to a protobuf message, by an HTTP rule

A message type is the list of its fields; a message has one entry for each field
of its type, in the order of the type, unset fields at their defaults.  `transcode`
reads a message from an HTTP request by the rule of an RPC, as
`google.api.http` describes it: variables of the path first, then the body, then
the query parameters with the proto names of the remaining fields.  Parameters that
name no field, or a field that the path or the body has set, are ignored; a member
of a JSON body that names no field is an error.

The lemmas say what each kind of field decodes to when its text or its JSON value was
written by `std::to_string` or by a JSON writer, for values that may be absent.
-/

namespace Transcode

open JsonText

/-! ## Types and messages -/

inductive ScalarType
  | string
  | bool
  | int32
  | uint32
  | int64
deriving DecidableEq

inductive Scalar
  | string (s : String)
  | bool (b : Bool)
  | int32 (n : Int32)
  | uint32 (n : UInt32)
  | int64 (n : Int64)
deriving DecidableEq

def ScalarType.default : ScalarType → Scalar
  | .string => .string ""
  | .bool => .bool false
  | .int32 => .int32 0
  | .uint32 => .uint32 0
  | .int64 => .int64 0

/-- `wrapper t` is the message type with one field of type `t`, such as `Int32Value`. -/
inductive FieldType
  | scalar (t : ScalarType)
  | wrapper (t : ScalarType)
  | repeated (t : ScalarType)
  | stringMap
  | message (fields : List (String × FieldType))
  | repeatedMessage (fields : List (String × FieldType))

abbrev Fields := List (String × FieldType)

abbrev StringMap := Std.ExtTreeMap String String

inductive Value
  | scalar (v : Scalar)
  | wrapper (v : Option Scalar)
  | repeated (vs : List Scalar)
  | stringMap (m : StringMap)
  | message (m : Option (List (String × Value)))
  | repeatedMessage (ms : List (List (String × Value)))

abbrev Message := List (String × Value)

def FieldType.default : FieldType → Value
  | .scalar t => .scalar t.default
  | .wrapper _ => .wrapper none
  | .repeated _ => .repeated []
  | .stringMap => .stringMap ∅
  | .message _ => .message none
  | .repeatedMessage _ => .repeatedMessage []

/-- A message with no field set. -/
def Message.new (fields : Fields) : Message := fields.map fun f => (f.1, f.2.default)

/-- Sets a field if there is a value for it. -/
def Message.setOpt (m : Message) (name : String) (v : Option Value) : Message :=
  m.map fun f => (f.1, if f.1 = name then v.getD f.2 else f.2)

def Message.set (m : Message) (name : String) (v : Value) : Message := m.setOpt name (some v)

/-- The entries of a map, later ones over earlier ones. -/
def StringMap.ofEntries (l : List (String × String)) : StringMap :=
  l.foldl (fun m e => m.insert e.1 e.2) ∅

/-! ## Names and values -/

/-- Several values under one name. -/
def named {α : Type} (name : String) (values : List α) : List (String × α) := values.map fun v => (name, v)

def lookupAll {α : Type} (name : String) (l : List (String × α)) : List α :=
  (l.filter fun e => e.1 == name).map Prod.snd

/-- Every name is the name of a field. -/
def known {α : Type} (fields : Fields) (l : List (String × α)) : Bool :=
  l.all fun e => fields.any fun f => f.1 == e.1

/-! ## Decoding -/

/-- A decimal integer. -/
def decimal? (s : String) : Option Int :=
  let (neg, ds) := sign false s.toList
  if ds ≠ [] ∧ ds.all Char.isDigit = true then some (signed neg ds) else none

def ScalarType.ofInt (t : ScalarType) (n : Int) : Option Scalar :=
  match t with
  | .int32 => if -2 ^ 31 ≤ n ∧ n < 2 ^ 31 then some (.int32 (.ofInt n)) else none
  | .uint32 => if 0 ≤ n ∧ n < 2 ^ 32 then some (.uint32 (.ofNat n.toNat)) else none
  | .int64 => if -2 ^ 63 ≤ n ∧ n < 2 ^ 63 then some (.int64 (.ofInt n)) else none
  | _ => none

def ScalarType.ofText (t : ScalarType) (s : String) : Option Scalar :=
  match t with
  | .string => some (.string s)
  | .bool => if s = "true" then some (.bool true) else if s = "false" then some (.bool false) else none
  | t => (decimal? s).bind t.ofInt

/-- Integers may be written as JSON strings. -/
def ScalarType.ofJson (t : ScalarType) (j : Json) : Option Scalar :=
  match t, j with
  | .string, .str s => some (.string s)
  | .bool, .bool b => some (.bool b)
  | .string, _ => none
  | .bool, _ => none
  | t, .int n => t.ofInt n
  | t, .str s => (decimal? s).bind t.ofInt
  | _, _ => none

/-- The values of a field that come as texts. -/
def FieldType.ofTexts (t : FieldType) (ts : List String) : Option Value :=
  match t, ts with
  | .repeated t, ts => (ts.mapM t.ofText).map .repeated
  | t, [] => some t.default
  | .scalar t, [s] => (t.ofText s).map .scalar
  | .wrapper t, [s] => (t.ofText s).map fun v => .wrapper (some v)
  | _, _ => none

def stringEntry (m : String × Json) : Option (String × String) :=
  match m.2 with
  | .str s => some (m.1, s)
  | _ => none

mutual

def FieldType.ofJson : FieldType → Json → Option Value
  | .scalar t, j =>
    match j with
    | .null => some (.scalar t.default)
    | j => (t.ofJson j).map .scalar
  | .wrapper t, j =>
    match j with
    | .null => some (.wrapper none)
    | j => (t.ofJson j).map fun v => .wrapper (some v)
  | .repeated t, j =>
    match j with
    | .null => some (.repeated [])
    | .arr js => (js.mapM t.ofJson).map .repeated
    | _ => none
  | .stringMap, j =>
    match j with
    | .null => some (.stringMap ∅)
    | .obj ms => (ms.mapM stringEntry).map fun es => .stringMap (StringMap.ofEntries es)
    | _ => none
  | .message fields, j =>
    match j with
    | .null => some (.message none)
    | .obj ms => if known fields ms then (ofMembers fields ms).map fun m => .message (some m) else none
    | _ => none
  | .repeatedMessage fields, j =>
    match j with
    | .null => some (.repeatedMessage [])
    | .arr js =>
      (js.mapM fun (j : Json) =>
        match j with
        | .obj ms => if known fields ms then ofMembers fields ms else none
        | _ => none).map .repeatedMessage
    | _ => none

/-- The fields of a message from the members of an object; the last one of a name counts. -/
def ofMembers : List (String × FieldType) → List (String × Json) → Option (List (String × Value))
  | [], _ => some []
  | (name, t) :: fields, ms => do
    let v ←
      match (lookupAll name ms).getLast? with
      | some j => t.ofJson j
      | none => some t.default
    let m ← ofMembers fields ms
    some ((name, v) :: m)

end

/-! ## Paths -/

def splitSlash : List Char → List (List Char)
  | [] => [[]]
  | c :: cs =>
    if c = '/' then [] :: splitSlash cs
    else
      match splitSlash cs with
      | s :: ss => (c :: s) :: ss
      | [] => [[c]]

/-- The segments of a path, the one before the first slash included. -/
def pathSegments (path : String) : List String := (splitSlash path.toList).map String.ofList

def percentDecodeBytes : List UInt8 → Option (List UInt8)
  | [] => some []
  | b :: bs =>
    if b = 0x25 then
      match bs with
      | h :: l :: bs => do
        let h ← hexValue (Char.ofNat h.toNat)
        let l ← hexValue (Char.ofNat l.toNat)
        let bs ← percentDecodeBytes bs
        some (UInt8.ofNat (h * 16 + l) :: bs)
      | _ => none
    else (percentDecodeBytes bs).map fun bs => b :: bs

def percentDecode (s : String) : Option String :=
  (percentDecodeBytes s.toByteArray.data.toList).bind fun bs => String.fromUTF8? ⟨bs.toArray⟩

/-- A character that percent-encoding leaves as it is. -/
def isUnreserved (c : Char) : Bool := c.isAlphanum || c == '-' || c == '.' || c == '_' || c == '~'

def Unreserved (s : String) : Prop := ∀ c ∈ s.toList, isUnreserved c = true

instance (s : String) : Decidable (Unreserved s) :=
  decidable_of_iff (s.toList.all isUnreserved = true) List.all_eq_true

/-! ## Rules -/

inductive Segment
  | lit (s : String)
  | var (field : String)
deriving DecidableEq

/-- The body of a rule: absent, the whole message, or one field. -/
inductive Body
  | none
  | all
  | field (name : String)
deriving DecidableEq

structure HttpBinding where
  method : String
  path : List Segment
  body : Body := .none
deriving DecidableEq

/-- An RPC: its request type, and its HTTP rule with the additional bindings. -/
structure Rpc where
  input : Fields
  http : List HttpBinding

structure HttpRequest where
  method : String
  path : String
  query : List (String × String)
  body : String

/-- The variables that a path binds. -/
def matchPath : List Segment → List String → Option (List (String × String))
  | [], [] => some []
  | .lit s :: t, p :: ps => if s = p then matchPath t ps else none
  | .var field :: t, p :: ps => do
    let v ← percentDecode p
    let vs ← matchPath t ps
    some ((field, v) :: vs)
  | _, _ => none

/-- The variables, if the binding is for this request. -/
def HttpBinding.vars (b : HttpBinding) (r : HttpRequest) : Option (List (String × String)) :=
  if b.method = r.method then matchPath (.lit "" :: b.path) (pathSegments r.path) else none

/-- The JSON values that the body gives, by field. -/
def HttpBinding.members (b : HttpBinding) (body : String) : Option (List (String × Json)) :=
  match b.body with
  | .none => some []
  | .all =>
    match parse body with
    | some (.obj ms) => some ms
    | _ => none
  | .field name => (parse body).map fun j => [(name, j)]

/-- One field: from the path, else from the body, else from the query. -/
def HttpBinding.field (b : HttpBinding) (vars : List (String × String)) (ms : List (String × Json))
    (query : List (String × String)) (name : String) (t : FieldType) : Option Value :=
  match lookupAll name vars with
  | v :: _ => t.ofTexts [v]
  | [] =>
    match (lookupAll name ms).getLast? with
    | some j => t.ofJson j
    | none => t.ofTexts (if b.body = .all then [] else lookupAll name query)

def HttpBinding.message (b : HttpBinding) (fields : Fields) (vars : List (String × String))
    (ms : List (String × Json)) (query : List (String × String)) : Option Message :=
  if known fields ms then
    fields.mapM fun f => (b.field vars ms query f.1 f.2).map fun v => (f.1, v)
  else none

/-- The message that an HTTP request stands for, by the first binding that fits. -/
def transcode (rpc : Rpc) (r : HttpRequest) : Option Message := do
  let (b, vars) ← rpc.http.findSome? fun b => (b.vars r).map fun vars => (b, vars)
  let ms ← b.members r.body
  b.message rpc.input vars ms r.query

/-! ## Lemmas: names -/

section
variable {α : Type}

@[simp] theorem lookupAll_nil (name : String) : lookupAll name ([] : List (String × α)) = [] := by
  unfold lookupAll
  rw [List.filter_nil, List.map_nil]

@[simp] theorem lookupAll_cons (name n : String) (v : α) (l : List (String × α)) :
    lookupAll name ((n, v) :: l) = if n = name then v :: lookupAll name l else lookupAll name l := by
  unfold lookupAll
  by_cases h : n = name
  · rw [if_pos h, List.filter_cons_of_pos (by simpa using h), List.map_cons]
  · rw [if_neg h, List.filter_cons_of_neg (by simpa using h)]

@[simp] theorem lookupAll_append (name : String) (l l' : List (String × α)) :
    lookupAll name (l ++ l') = lookupAll name l ++ lookupAll name l' := by
  unfold lookupAll
  rw [List.filter_append, List.map_append]

@[simp] theorem lookupAll_named (name n : String) (vs : List α) :
    lookupAll name (named n vs) = if n = name then vs else [] := by
  induction vs with
  | nil => simp [named]
  | cons v vs ih =>
    show lookupAll name ((n, v) :: named n vs) = _
    rw [lookupAll_cons, ih]
    split <;> rfl

@[simp] theorem known_nil (fields : Fields) : known fields ([] : List (String × α)) = true := by
  unfold known
  rw [List.all_nil]

@[simp] theorem known_cons (fields : Fields) (n : String) (v : α) (l : List (String × α)) :
    known fields ((n, v) :: l) = ((fields.any fun f => f.1 == n) && known fields l) := by
  unfold known
  rw [List.all_cons]

@[simp] theorem known_append (fields : Fields) (l l' : List (String × α)) :
    known fields (l ++ l') = (known fields l && known fields l') := List.all_append

theorem known_named {fields : Fields} {n : String} (h : (fields.any fun f => f.1 == n) = true)
    (vs : List α) : known fields (named n vs) = true := by
  induction vs with
  | nil => rfl
  | cons v vs ih =>
    show ((fields.any fun f => f.1 == n) && known fields (named n vs)) = true
    rw [h, ih]
    rfl

theorem StringMap.mem_foldl_insert (l : List (String × String)) (k : String) :
    ∀ m : StringMap, k ∈ l.foldl (fun m e => m.insert e.1 e.2) m ↔ k ∈ m ∨ ∃ e ∈ l, e.1 = k := by
  induction l with
  | nil => intro m; simp
  | cons e l ih =>
    intro m
    rw [List.foldl_cons, ih, Std.ExtTreeMap.mem_insert, Std.compare_eq_iff_eq]
    simp only [List.mem_cons, exists_eq_or_imp]
    tauto

/-- A map has the keys of the entries that it was made of. -/
theorem StringMap.mem_ofEntries (l : List (String × String)) (k : String) :
    k ∈ StringMap.ofEntries l ↔ ∃ e ∈ l, e.1 = k := by
  have h := StringMap.mem_foldl_insert l k ∅
  simpa [StringMap.ofEntries] using h

theorem mapM_map {α β γ : Type} {f : α → β} {g : β → Option γ} {h : α → γ}
    (hg : ∀ a, g (f a) = some (h a)) (l : List α) : (l.map f).mapM g = some (l.map h) := by
  induction l with
  | nil => rfl
  | cons a l ih =>
    rw [List.map_cons, List.mapM_cons, hg, ih]
    rfl

end

/-! ## Lemmas: scalars -/

theorem decimal?_toString (n : Int) : decimal? (toString n) = some n := by
  have hs := sign_writeInt false n []
  rw [List.append_nil, List.append_nil] at hs
  have hd : (Nat.toDigits 10 n.natAbs).all Char.isDigit = true :=
    List.all_eq_true.2 fun _ hc => Nat.isDigit_of_mem_toDigits (by decide) (by decide) hc
  unfold decimal?
  unfold writeInt at hs
  simp only [hs, hd]
  rw [if_pos ⟨Nat.toDigits_ne_nil, trivial⟩, signed_toDigits]

theorem decimal?_toString_nat (n : Nat) : decimal? (toString n) = some (n : Int) := decimal?_toString n

theorem ofInt_int32 (n : Int32) : ScalarType.int32.ofInt n.toInt = some (.int32 n) := by
  have hlo := n.le_toInt
  have hhi := n.toInt_lt
  simp only [ScalarType.ofInt]
  rw [if_pos ⟨hlo, hhi⟩, Int32.ofInt_toInt]

theorem ofInt_int64 (n : Int64) : ScalarType.int64.ofInt n.toInt = some (.int64 n) := by
  have hlo := n.le_toInt
  have hhi := n.toInt_lt
  simp only [ScalarType.ofInt]
  rw [if_pos ⟨hlo, hhi⟩, Int64.ofInt_toInt]

theorem ofInt_uint32 (n : UInt32) : ScalarType.uint32.ofInt (n.toNat : Int) = some (.uint32 n) := by
  have := n.toNat_lt
  simp only [ScalarType.ofInt]
  rw [if_pos ⟨by omega, by omega⟩, Int.toNat_natCast, UInt32.ofNat_toNat]

@[simp] theorem ofText_string (s : String) : ScalarType.string.ofText s = some (.string s) := rfl

@[simp] theorem ofText_bool (b : Bool) :
    ScalarType.bool.ofText (if b then "true" else "false") = some (.bool b) := by
  cases b <;> rfl

@[simp] theorem ofText_int32 (n : Int32) :
    ScalarType.int32.ofText (toString n) = some (.int32 n) := by
  rw [show toString n = toString n.toInt from rfl]
  simp only [ScalarType.ofText, decimal?_toString, Option.bind_some, ofInt_int32]

@[simp] theorem ofText_uint32 (n : UInt32) :
    ScalarType.uint32.ofText (toString n) = some (.uint32 n) := by
  have ht : decimal? (toString n) = some (n.toNat : Int) := decimal?_toString_nat n.toNat
  show (decimal? (toString n)).bind ScalarType.uint32.ofInt = _
  rw [ht, Option.bind_some, ofInt_uint32]

/-- A signed number is an unsigned one unless it is negative. -/
theorem ofText_uint32_int32 (n : Int32) :
    ScalarType.uint32.ofText (toString n) =
      if 0 ≤ n.toInt then some (.uint32 (.ofNat n.toInt.toNat)) else none := by
  have hhi := n.toInt_lt
  rw [show toString n = toString n.toInt from rfl]
  simp only [ScalarType.ofText, decimal?_toString, Option.bind_some, ScalarType.ofInt]
  by_cases h : 0 ≤ n.toInt
  · rw [if_pos h, if_pos ⟨h, by omega⟩]
  · rw [if_neg h, if_neg (fun hn => h hn.1)]

@[simp] theorem ofJson_string (s : String) : ScalarType.string.ofJson (.str s) = some (.string s) := rfl

@[simp] theorem ofJson_bool (b : Bool) : ScalarType.bool.ofJson (.bool b) = some (.bool b) := rfl

@[simp] theorem ofJson_int32 (n : Int32) :
    ScalarType.int32.ofJson (.int n.toInt) = some (.int32 n) := ofInt_int32 n

@[simp] theorem ofJson_int64 (n : Int64) :
    ScalarType.int64.ofJson (.str (toString n)) = some (.int64 n) := by
  rw [show toString n = toString n.toInt from rfl]
  simp only [ScalarType.ofJson, decimal?_toString, Option.bind_some, ofInt_int64]

/-- A `uint64_t` that is written as a number is an `int64` below 2^63 only. -/
theorem ofJson_int64_nat (n : Nat) :
    ScalarType.int64.ofJson (.int n) = if n < 2 ^ 63 then some (.int64 (.ofNat n)) else none := by
  simp only [ScalarType.ofJson, ScalarType.ofInt]
  by_cases h : n < 2 ^ 63
  · rw [if_pos h, if_pos ⟨by omega, by omega⟩]
    rfl
  · rw [if_neg h, if_neg (by omega)]

/-! ## Lemmas: fields -/

/-- A JSON value that may be absent. -/
def FieldType.ofJson? (t : FieldType) (j : Option Json) : Option Value :=
  match j with
  | some j => t.ofJson j
  | none => some t.default

theorem ofJson?_some (t : FieldType) (j : Json) : t.ofJson? (some j) = t.ofJson j := by
  unfold FieldType.ofJson?
  rfl

theorem ofJson?_none (t : FieldType) : t.ofJson? none = some t.default := by
  unfold FieldType.ofJson?
  rfl

section
variable {β : Type} {t : ScalarType} {f : β → Scalar}

theorem ofTexts_scalar {s : String} {v : Scalar} (h : t.ofText s = some v) :
    (FieldType.scalar t).ofTexts [s] = some (.scalar v) := by
  show (t.ofText s).map _ = _
  rw [h]
  rfl

theorem ofTexts_wrapper {s : String} {v : Scalar} (h : t.ofText s = some v) :
    (FieldType.wrapper t).ofTexts [s] = some (.wrapper (some v)) := by
  show (t.ofText s).map _ = _
  rw [h]
  rfl

theorem ofTexts_wrapper? {g : β → String} (h : ∀ b, t.ofText (g b) = some (f b)) (o : Option β) :
    (FieldType.wrapper t).ofTexts (o.map g).toList = some (.wrapper (o.map f)) := by
  cases o with
  | none => rfl
  | some b => exact ofTexts_wrapper (h b)

@[simp] theorem ofTexts_repeated_string (ss : List String) :
    (FieldType.repeated .string).ofTexts ss = some (.repeated (ss.map Scalar.string)) := by
  show (ss.mapM ScalarType.string.ofText).map Value.repeated = _
  have := mapM_map (f := id) (g := ScalarType.string.ofText) (h := Scalar.string) (fun _ => rfl) ss
  rw [List.map_id] at this
  rw [this]
  rfl

theorem ofJson_scalar {j : Json} {v : Scalar} (h : t.ofJson j = some v) :
    (FieldType.scalar t).ofJson j = some (.scalar v) := by
  cases j with
  | null => cases t <;> cases h
  | _ =>
    show (t.ofJson _).map _ = _
    rw [h]
    rfl

theorem ofJson_wrapper {j : Json} {v : Scalar} (h : t.ofJson j = some v) :
    (FieldType.wrapper t).ofJson j = some (.wrapper (some v)) := by
  cases j with
  | null => cases t <;> cases h
  | _ =>
    show (t.ofJson _).map _ = _
    rw [h]
    rfl

theorem ofJson?_scalar {g : β → Json} (h : ∀ b, t.ofJson (g b) = some (f b)) (o : Option β) :
    (FieldType.scalar t).ofJson? (o.map g) = some (.scalar ((o.map f).getD t.default)) := by
  cases o with
  | none => rfl
  | some b => exact ofJson_scalar (h b)

theorem ofJson?_wrapper {g : β → Json} (h : ∀ b, t.ofJson (g b) = some (f b)) (o : Option β) :
    (FieldType.wrapper t).ofJson? (o.map g) = some (.wrapper (o.map f)) := by
  cases o with
  | none => rfl
  | some b => exact ofJson_wrapper (h b)

/-- A setter of a wrapper that may not be called. -/
@[simp] theorem getD_wrapper (o : Option β) :
    (o.map fun b => Value.wrapper (some (f b))).getD (.wrapper none) = .wrapper (o.map f) := by
  cases o <;> rfl

end

theorem ofTexts_nil (t : FieldType) : t.ofTexts [] = some t.default := by
  cases t <;> rfl

theorem ofMembers_nil (ms : List (String × Json)) : ofMembers [] ms = some [] := by
  rw [ofMembers]

theorem ofMembers_cons (name : String) (t : FieldType) (fields : Fields) (ms : List (String × Json)) :
    ofMembers ((name, t) :: fields) ms =
      (t.ofJson? (lookupAll name ms).getLast?).bind fun v =>
        (ofMembers fields ms).bind fun m => some ((name, v) :: m) := by
  rw [ofMembers]
  cases (lookupAll name ms).getLast? <;> rfl

/-! ## Lemmas: one field of a request -/

section
variable {b : HttpBinding} {vars : List (String × String)} {ms : List (String × Json)}
  {query : List (String × String)} {name : String}

theorem field_path (h : lookupAll name vars ≠ []) (t : FieldType) :
    b.field vars ms query name t = t.ofTexts ((lookupAll name vars).take 1) := by
  obtain ⟨v, vs, hv⟩ := List.exists_cons_of_ne_nil h
  unfold HttpBinding.field
  rw [hv]
  rfl

theorem field_json (h : lookupAll name vars = []) (hm : lookupAll name ms ≠ []) (t : FieldType) :
    b.field vars ms query name t = t.ofJson? (lookupAll name ms).getLast? := by
  unfold HttpBinding.field
  rw [h, List.getLast?_eq_getLast_of_ne_nil hm]
  rfl

theorem field_all (hb : b.body = .all) (h : lookupAll name vars = []) (t : FieldType) :
    b.field vars ms query name t = t.ofJson? (lookupAll name ms).getLast? := by
  unfold HttpBinding.field
  rw [h, if_pos hb, ofTexts_nil]
  cases (lookupAll name ms).getLast? <;> rfl

theorem field_query (hb : b.body ≠ .all) (h : lookupAll name vars = []) (hm : lookupAll name ms = [])
    (t : FieldType) : b.field vars ms query name t = t.ofTexts (lookupAll name query) := by
  unfold HttpBinding.field
  rw [h, hm, if_neg hb]
  rfl

end

/-! ## Lemmas: a whole body -/

/-- The members of an object decode to the message `m`. -/
def Decodes (fields : Fields) (ms : List (String × Json)) (m : Message) : Prop :=
  known fields ms = true ∧ ofMembers fields ms = some m

theorem ofJson_message {fields : Fields} {ms : List (String × Json)} {m : Message}
    (h : Decodes fields ms m) :
    (FieldType.message fields).ofJson (.obj ms) = some (.message (some m)) := by
  simp only [FieldType.ofJson, h.1, h.2, if_true, Option.map_some]

theorem ofJson_message_none {fields : Fields} {ms : List (String × Json)}
    (h : ofMembers fields ms = none) : (FieldType.message fields).ofJson (.obj ms) = none := by
  simp only [FieldType.ofJson, h, Option.map_none, ite_self]

theorem ofJson_repeatedMessage {β : Type} {fields : Fields} {f : β → List (String × Json)}
    {g : β → Message} (h : ∀ b, Decodes fields (f b) (g b)) (l : List β) :
    (FieldType.repeatedMessage fields).ofJson (.arr (l.map fun b => .obj (f b))) =
      some (.repeatedMessage (l.map g)) := by
  have hobj := mapM_map (f := fun b => Json.obj (f b)) (h := g)
    (g := fun (j : Json) =>
      match j with
      | .obj ms => if known fields ms = true then ofMembers fields ms else none
      | _ => none)
    (fun b => by simp only [(h b).1, (h b).2, if_true]) l
  rw [FieldType.ofJson]
  simp only [hobj, Option.map_some]

theorem message_all {b : HttpBinding} (hb : b.body = .all) (fields : Fields)
    {ms : List (String × Json)} (hk : known fields ms = true) (query : List (String × String)) :
    b.message fields [] ms query = ofMembers fields ms := by
  have hrest : ∀ fields : Fields,
      (fields.mapM fun f => (b.field [] ms query f.1 f.2).map fun v => (f.1, v)) =
        ofMembers fields ms := by
    intro fields
    induction fields with
    | nil => exact (ofMembers_nil ms).symm
    | cons f fields ih =>
      obtain ⟨name, t⟩ := f
      rw [List.mapM_cons, ih, ofMembers_cons, field_all hb (lookupAll_nil name)]
      cases t.ofJson? (lookupAll name ms).getLast? <;> rfl
  unfold HttpBinding.message
  rw [if_pos hk, hrest]

/-- A request for an RPC with one binding. -/
theorem transcode_single {rpc : Rpc} {r : HttpRequest} {b : HttpBinding}
    {vars : List (String × String)} {ms : List (String × Json)} (hb : rpc.http = [b])
    (hv : b.vars r = some vars) (hm : b.members r.body = some ms) :
    transcode rpc r = b.message rpc.input vars ms r.query := by
  unfold transcode
  rw [hb, List.findSome?_cons, hv]
  simp only [Option.map_some, Option.bind_eq_bind, Option.bind_some, hm]

/-! ## Lemmas: paths -/

theorem splitSlash_ne_nil (cs : List Char) : splitSlash cs ≠ [] := by
  cases cs with
  | nil => exact List.cons_ne_nil _ _
  | cons c cs =>
    rw [splitSlash]
    repeat' split
    all_goals exact List.cons_ne_nil _ _

/-- The last segment of one path and the first one of the next become one segment. -/
theorem splitSlash_append {a b : List Char} (as : List (List Char)) {x y : List Char}
    {bs : List (List Char)} (ha : splitSlash a = as ++ [x]) (hb : splitSlash b = y :: bs) :
    splitSlash (a ++ b) = as ++ (x ++ y) :: bs := by
  induction a generalizing as x with
  | nil =>
    obtain ⟨rfl, hx⟩ := List.append_eq_singleton_iff.1 ha.symm |>.resolve_right (by simp)
    rw [List.singleton_inj] at hx
    rw [List.nil_append, hb, hx]
    rfl
  | cons c a ih =>
    rw [splitSlash] at ha
    rw [List.cons_append, splitSlash]
    by_cases hc : c = '/'
    · rw [if_pos hc] at ha ⊢
      cases as with
      | nil => exact absurd (List.cons.inj ha).2 (splitSlash_ne_nil a)
      | cons s as =>
        obtain ⟨rfl, h⟩ := List.cons.inj ha
        rw [ih as h]
        rfl
    · rw [if_neg hc] at ha ⊢
      split at ha
      · next s ss hs =>
        cases as with
        | nil =>
          obtain ⟨rfl, rfl⟩ := List.cons.inj ha
          rw [ih [] (by rw [hs]; rfl)]
          rfl
        | cons s' as =>
          obtain ⟨rfl, rfl⟩ := List.cons.inj ha
          rw [ih (s :: as) (by rw [hs]; rfl)]
          rfl
      · next hs => exact absurd hs (splitSlash_ne_nil a)

theorem splitSlash_of_not_mem {cs : List Char} (h : '/' ∉ cs) : splitSlash cs = [cs] := by
  induction cs with
  | nil => rfl
  | cons c cs ih =>
    rw [List.mem_cons, not_or] at h
    rw [splitSlash, if_neg (fun hc => h.1 hc.symm), ih h.2]

theorem pathSegments_append {a b : String} {as bs : List String} {x y : String}
    (ha : pathSegments a = as ++ [x]) (hb : pathSegments b = y :: bs) :
    pathSegments (a ++ b) = as ++ (x ++ y) :: bs := by
  unfold pathSegments at *
  obtain ⟨las, lx, ha', rfl, hx⟩ := List.map_eq_append_iff.1 ha
  obtain ⟨cx, rfl, rfl⟩ := List.map_eq_singleton_iff.1 hx
  obtain ⟨cy, lbs, hb', rfl, rfl⟩ := List.map_eq_cons_iff.1 hb
  rw [String.toList_append, splitSlash_append _ ha' hb', List.map_append, List.map_cons,
    String.ofList_append]

/-! ## Lemmas: unreserved characters -/

/-- An unreserved character is an ASCII character other than the percent sign and the slash. -/
theorem isUnreserved_lt {c : Char} (h : isUnreserved c = true) :
    c.toNat < 128 ∧ c.toNat ≠ 37 ∧ c ≠ '/' := by
  have hlt : c.toNat < 128 := by
    simp only [isUnreserved, Char.isAlphanum, Char.isAlpha, Char.isUpper, Char.isLower, Char.isDigit,
      Bool.or_eq_true, Bool.and_eq_true, decide_eq_true_eq, beq_iff_eq, UInt32.le_iff_toNat_le,
      ge_iff_le] at h
    have hv : c.toNat = c.val.toNat := rfl
    have hZ : 'Z'.val.toNat = 90 := rfl
    have hz : 'z'.val.toNat = 122 := rfl
    have h9 : '9'.val.toNat = 57 := rfl
    rcases h with (((h | rfl) | rfl) | rfl) | rfl
    · omega
    all_goals decide
  have hne : ∀ d : Char, isUnreserved d = false → c ≠ d := by
    rintro d hd rfl
    rw [h] at hd
    cases hd
  refine ⟨hlt, fun h37 => hne '%' (by decide) ?_, hne '/' (by decide)⟩
  rw [← Char.ofNat_toNat c, h37]

theorem Unreserved.not_mem_slash {s : String} (h : Unreserved s) : '/' ∉ s.toList :=
  fun hm => (isUnreserved_lt (h '/' hm)).2.2 rfl

theorem pathSegments_unreserved {s : String} (h : Unreserved s) : pathSegments s = [s] := by
  unfold pathSegments
  rw [splitSlash_of_not_mem h.not_mem_slash, List.map_singleton, String.ofList_toList]

theorem percentDecodeBytes_of_not_mem {bs : List UInt8} (h : 0x25 ∉ bs) :
    percentDecodeBytes bs = some bs := by
  induction bs with
  | nil => rfl
  | cons b bs ih =>
    rw [List.mem_cons, not_or] at h
    unfold percentDecodeBytes
    rw [if_neg (fun hb => h.1 hb.symm), ih h.2]
    rfl

/-- Nothing is encoded in a text of unreserved characters. -/
theorem percentDecode_unreserved {s : String} (h : Unreserved s) : percentDecode s = some s := by
  have hb : s.toByteArray.data.toList = s.toList.flatMap String.utf8EncodeChar := by
    rw [← String.utf8Encode_toList, List.utf8Encode, List.toList_data_toByteArray]
  have hm : 0x25 ∉ s.toByteArray.data.toList := by
    rw [hb, List.mem_flatMap]
    rintro ⟨c, hc, hm⟩
    obtain ⟨hlt, h37, -⟩ := isUnreserved_lt (h c hc)
    have hv : c.val.toNat = c.toNat := rfl
    have hsize : c.utf8Size = 1 := by
      unfold Char.utf8Size
      rw [if_pos (UInt32.le_iff_toNat_le.2 (show c.val.toNat ≤ 127 by omega))]
    rw [String.utf8EncodeChar_eq_singleton hsize, List.mem_singleton] at hm
    have := congrArg UInt8.toNat hm
    rw [UInt32.toNat_toUInt8, hv] at this
    have h25 : (0x25 : UInt8).toNat = 37 := rfl
    omega
  unfold percentDecode
  rw [percentDecodeBytes_of_not_mem hm, Option.bind_some]
  show String.fromUTF8? ⟨s.toByteArray.data.toList.toArray⟩ = some s
  rw [Array.toArray_toList]
  exact dif_pos s.isValidUTF8

end Transcode
