import NakamaCpp.Lib.Wire

/-!
# Codecs of protocol buffers messages

What the code generated for a message type does: `merge` takes one field into a message, `write`
gives the fields of a message, `size` the number of bytes that they take.  A `ValueCodec` is the
same for the payload of one field.  `merge` gets the number of levels on which there may still be
messages, and `height` is how many a message needs.  A codec is put together from codecs of fields
with different numbers (`Codec.prod`), and carries the proof that the three belong together.

    c.size a < 2 ^ 31  →  (c.serialize a).length = c.size a  ∧  c.parse (c.serialize a) = some a
                                                         (length_serialize, parse_serialize)
    c.parseFrom a (x ++ y)  =  a with x merged into it, and then y           (parseFrom_append)
    fields that the codec does not know change nothing                       (parse_unknown)
-/

namespace Wire

variable {F : Format} {α β κ : Type}

/-! ## Payloads -/

/-- What a payload is to the field that it is for. -/
inductive Read (β : Type)
  | otherType
  | malformed
  | value (b : β)

/-- A field whose payload is of another type is an unknown field, which no accessor gives. -/
def Read.update (r : Read β) (a : α) (set : β → α) : Option α :=
  match r with
  | .otherType => some a
  | .malformed => none
  | .value b => some (set b)

/-- `merge` reads a payload into a value that is there already; only messages keep what they
have. -/
structure ValueCodec (F : Format) (β : Type) where
  default : β
  height : Nat
  merge : Nat → β → Payload → Read β
  encode : β → Payload
  size : β → Nat
  fits_encode : ∀ b, size b < 2 ^ 31 → (encode b).Fits
  payloadSize_encode : ∀ b, size b < 2 ^ 31 → F.payloadSize (encode b) = size b
  merge_encode : ∀ {depth}, height ≤ depth → ∀ b, size b < 2 ^ 31 →
    merge depth default (encode b) = .value b

/-- Numbers in a varint. -/
def ValueCodec.ofScalar (default : β) (scalar : Scalar β) : ValueCodec F β where
  default
  height := 0
  merge _ _ p := match p with
    | .varint n => .value (scalar.decode n)
    | _ => .otherType
  encode b := .varint (scalar.encode b)
  size b := F.varintSize (scalar.encode b)
  fits_encode _ _ := trivial
  payloadSize_encode _ _ := rfl
  merge_encode _ b _ := by
    show Read.value (scalar.decode (scalar.encode b)) = _
    rw [scalar.decode_encode]

/-- Bytes with their length: `decode` is none where they cannot be read. -/
def ValueCodec.ofBytes (default : β) (height : Nat) (encode : β → Bytes) (size : β → Nat)
    (decode : Nat → β → Bytes → Option β)
    (length_encode : ∀ b, size b < 2 ^ 31 → (encode b).length = size b)
    (decode_encode : ∀ {depth}, height ≤ depth → ∀ b, size b < 2 ^ 31 →
      decode depth default (encode b) = some b) :
    ValueCodec F β where
  default
  height
  merge depth b p := match p with
    | .bytes bs => (decode depth b bs).elim .malformed .value
    | _ => .otherType
  encode b := .bytes (encode b)
  size b := F.lengthDelimitedSize (size b)
  fits_encode b h := by
    have hsize : size b < 2 ^ 31 := Nat.lt_of_le_of_lt (F.le_lengthDelimitedSize _) h
    show (encode b).length < 2 ^ 31
    rwa [length_encode b hsize]
  payloadSize_encode b h := by
    have hsize : size b < 2 ^ 31 := Nat.lt_of_le_of_lt (F.le_lengthDelimitedSize _) h
    show F.lengthDelimitedSize (encode b).length = _
    rw [length_encode b hsize]
  merge_encode hdepth b h := by
    have hsize : size b < 2 ^ 31 := Nat.lt_of_le_of_lt (F.le_lengthDelimitedSize _) h
    show (decode _ default (encode b)).elim _ _ = _
    rw [decode_encode hdepth b hsize]
    rfl

namespace ValueCodec

def bool : ValueCodec F Bool := ofScalar false F.bool

def int32 : ValueCodec F Int32 := ofScalar 0 F.int32

def int64 : ValueCodec F Int64 := ofScalar 0 F.int64

/-- `double`, by its 64 bits. -/
def double : ValueCodec F UInt64 where
  default := 0
  height := 0
  merge _ _ p := match p with
    | .fixed64 n => .value n
    | _ => .otherType
  encode n := .fixed64 n
  size _ := 8
  fits_encode _ _ := trivial
  payloadSize_encode _ _ := rfl
  merge_encode _ _ _ := rfl

def bytes : ValueCodec F ByteArray :=
  ofBytes ByteArray.empty 0 (fun b => b.data.toList) ByteArray.size (fun _ _ bs => some ⟨bs.toArray⟩)
    (fun _ _ => rfl) fun _ _ _ => rfl

/-- `string`: the text is in UTF-8. -/
def string : ValueCodec F String :=
  ofBytes "" 0 (fun s => s.toUTF8.data.toList) String.utf8ByteSize (fun _ _ bs => F.readString bs)
    (fun _ _ => rfl) fun _ s _ => F.readString_toUTF8 s

end ValueCodec

/-- A message type of the library itself, with no messages in it. -/
structure WellKnown (β : Type) where
  default : β
  encode : β → Bytes
  size : β → Nat
  decode : β → Bytes → Option β
  length_encode : ∀ b, size b < 2 ^ 31 → (encode b).length = size b
  decode_encode : ∀ b, size b < 2 ^ 31 → decode default (encode b) = some b

/-- Read `inner`, one level further down. -/
def descend {γ : Type} (inner : Nat → Option γ) : Nat → Option γ
  | 0 => none
  | depth + 1 => inner depth

theorem descend_eq {γ : Type} {inner : Nat → Option γ} {n depth : Nat} {c : γ}
    (h : ∀ {depth}, n ≤ depth → inner depth = some c) (hdepth : n + 1 ≤ depth) :
    descend inner depth = some c := by
  cases depth with
  | zero => cases hdepth
  | succ depth => exact h (Nat.le_of_succ_le_succ hdepth)

def ValueCodec.wellKnown (w : WellKnown β) : ValueCodec F β :=
  ofBytes w.default 1 w.encode w.size (fun depth b bs => descend (fun _ => w.decode b bs) depth)
    w.length_encode fun hdepth b h =>
      descend_eq (n := 0) (fun _ => w.decode_encode b h) hdepth

/-! ## Messages -/

/-- A message type, or some of the fields of one: those with the `numbers`. -/
structure Codec (F : Format) (α : Type) where
  numbers : List Nat
  default : α
  height : Nat
  merge : Nat → α → Field → Option α
  write : α → List Field
  size : α → Nat
  numbers_valid : ∀ n ∈ numbers, 0 < n ∧ n < 2 ^ 29
  merge_unknown : ∀ {f}, f.number ∉ numbers → ∀ depth a, merge depth a f = some a
  number_mem : ∀ a, ∀ f ∈ write a, f.number ∈ numbers
  fits_write : ∀ a, size a < 2 ^ 31 → ∀ f ∈ write a, f.payload.Fits
  length_write : ∀ a, size a < 2 ^ 31 → (F.writeFields (write a)).length = size a
  merge_write : ∀ {depth}, height ≤ depth → ∀ a, size a < 2 ^ 31 →
    (write a).foldlM (merge depth) default = some a

namespace Codec

def parseFrom (c : Codec F α) (depth : Nat) (a : α) (bs : Bytes) : Option α :=
  (F.read depth bs).bind fun fs => fs.foldlM (c.merge depth) a

def parse (c : Codec F α) (bs : Bytes) : Option α := c.parseFrom F.recursionLimit c.default bs

def serialize (c : Codec F α) (a : α) : Bytes := F.writeFields (c.write a)

theorem length_serialize (c : Codec F α) {a : α} (h : c.size a < 2 ^ 31) :
    (c.serialize a).length = c.size a := c.length_write a h

theorem parseFrom_serialize (c : Codec F α) {depth : Nat} (hdepth : c.height ≤ depth) {a : α}
    (h : c.size a < 2 ^ 31) : c.parseFrom depth c.default (c.serialize a) = some a := by
  have hfits : ∀ f ∈ c.write a, f.Fits := by
    intro f hf
    have hnumber := c.numbers_valid _ (c.number_mem a f hf)
    exact ⟨hnumber.1, hnumber.2, c.fits_write a h f hf⟩
  have hlength : (F.writeFields (c.write a)).length < 2 ^ 31 := by rwa [c.length_write a h]
  have hread : F.read depth (F.writeFields (c.write a)) = some (c.write a) :=
    F.read_write hfits hlength
  rw [parseFrom, serialize, hread, Option.bind_some, c.merge_write hdepth a h]

theorem parse_serialize (c : Codec F α) (hlimit : c.height ≤ F.recursionLimit) {a : α}
    (h : c.size a < 2 ^ 31) : c.parse (c.serialize a) = some a := c.parseFrom_serialize hlimit h

end Codec

/-- A message type that the library reads and writes by a codec. -/
def WellKnown.ofCodec (c : Codec F β) (hheight : c.height = 0) : WellKnown β where
  default := c.default
  encode := c.serialize
  size := c.size
  decode := c.parseFrom 0
  length_encode _ h := c.length_serialize h
  decode_encode _ h := c.parseFrom_serialize hheight.le h

/-- A message as the payload of a field; another one of the same field is merged into it. -/
def ValueCodec.message (c : Codec F α) : ValueCodec F α :=
  ofBytes c.default (c.height + 1) c.serialize c.size
    (fun depth a bs => descend (fun depth => c.parseFrom depth a bs) depth)
    (fun _ h => c.length_serialize h) fun hdepth _ h =>
      descend_eq (fun hdepth => c.parseFrom_serialize hdepth h) hdepth

/-! ## One field -/

/-- The bytes of a field: the tag and the payload. -/
def fieldSize (number : Nat) (v : ValueCodec F β) (b : β) : Nat := tagSize number + v.size b

def fieldsOf (number : Nat) (v : ValueCodec F β) (bs : List β) : List Field :=
  bs.map fun b => ⟨number, v.encode b⟩

theorem size_lt_of_mem {number : Nat} {v : ValueCodec F β} {bs : List β} {b : β} (hb : b ∈ bs)
    (h : (bs.map (fieldSize number v)).sum < 2 ^ 31) : v.size b < 2 ^ 31 := by
  have hle : fieldSize number v b ≤ (bs.map (fieldSize number v)).sum :=
    List.le_sum_of_mem (List.mem_map_of_mem hb)
  have hfield : v.size b ≤ fieldSize number v b := Nat.le_add_left _ _
  omega

theorem length_field {number : Nat} {v : ValueCodec F β} {b : β}
    (hnumber : 0 < number ∧ number < 2 ^ 29) (h : v.size b < 2 ^ 31) :
    (F.write ⟨number, v.encode b⟩).length = fieldSize number v b := by
  rw [F.length_write ⟨hnumber.1, hnumber.2, v.fits_encode b h⟩, fieldSize]
  exact congrArg _ (v.payloadSize_encode b h)

theorem length_fieldsOf {number : Nat} {v : ValueCodec F β} {bs : List β}
    (hnumber : 0 < number ∧ number < 2 ^ 29) (h : ∀ b ∈ bs, v.size b < 2 ^ 31) :
    (F.writeFields (fieldsOf number v bs)).length = (bs.map (fieldSize number v)).sum := by
  induction bs with
  | nil => rfl
  | cons b bs ih =>
    show (F.write _ ++ F.writeFields (fieldsOf number v bs)).length = _
    rw [List.length_append, length_field hnumber (h b List.mem_cons_self),
      ih fun b hb => h b (List.mem_cons_of_mem _ hb), List.map_cons, List.sum_cons]

namespace Codec

/-- One field, written once for each of the `values`. -/
def ofValues (v : ValueCodec F β) (number : Nat) (valid : 0 < number ∧ number < 2 ^ 29) (default : α)
    (values : α → List β) (merge : Nat → α → Payload → Option α)
    (merge_values : ∀ {depth}, v.height ≤ depth → ∀ a, (∀ b ∈ values a, v.size b < 2 ^ 31) →
      (values a).foldlM (fun a b => merge depth a (v.encode b)) default = some a) : Codec F α where
  numbers := [number]
  default
  height := v.height
  merge depth a f := if f.number = number then merge depth a f.payload else some a
  write a := fieldsOf number v (values a)
  size a := ((values a).map (fieldSize number v)).sum
  numbers_valid n hn := by
    rw [List.mem_singleton.1 hn]
    exact valid
  merge_unknown hf _ _ := if_neg fun h => hf (List.mem_singleton.2 h)
  number_mem a f hf := by
    obtain ⟨b, -, rfl⟩ := List.mem_map.1 hf
    exact List.mem_singleton_self number
  fits_write a h f hf := by
    obtain ⟨b, hb, rfl⟩ := List.mem_map.1 hf
    exact v.fits_encode b (size_lt_of_mem hb h)
  length_write a h := length_fieldsOf valid fun _ hb => size_lt_of_mem hb h
  merge_write hdepth a h := by
    rw [fieldsOf, List.foldlM_map]
    simp only [if_true]
    exact merge_values hdepth a fun _ hb => size_lt_of_mem hb h

/-- A field without presence: not written if it has its default. -/
def singular [DecidableEq β] (v : ValueCodec F β) (number : Nat)
    (valid : 0 < number ∧ number < 2 ^ 29 := by decide) : Codec F β :=
  ofValues v number valid v.default (fun b => if b = v.default then [] else [b])
    (fun depth b p => (v.merge depth b p).update b id) fun hdepth b h => by
      by_cases hb : b = v.default
      · rw [if_pos hb, hb]
        rfl
      · rw [if_neg hb] at h ⊢
        rw [List.foldlM_cons, v.merge_encode hdepth b (h b List.mem_cons_self)]
        rfl

/-- A field of a map's entry. -/
def always (v : ValueCodec F β) (number : Nat) (valid : 0 < number ∧ number < 2 ^ 29 := by decide) :
    Codec F β :=
  ofValues v number valid v.default (fun b => [b])
    (fun depth b p => (v.merge depth b p).update b id) fun hdepth b h => by
      rw [List.foldlM_cons, v.merge_encode hdepth b (h b List.mem_cons_self)]
      rfl

/-- A message that may be absent. -/
def optional (v : ValueCodec F β) (number : Nat)
    (valid : 0 < number ∧ number < 2 ^ 29 := by decide) : Codec F (Option β) :=
  ofValues v number valid none Option.toList
    (fun depth b p => (v.merge depth (b.getD v.default) p).update b some) fun {depth} hdepth b h => by
      cases b with
      | none => rfl
      | some b =>
        show (((v.merge depth v.default (v.encode b)).update none some).bind _) = _
        rw [v.merge_encode hdepth b (h b List.mem_cons_self)]
        rfl

def repeated (v : ValueCodec F β) (number : Nat)
    (valid : 0 < number ∧ number < 2 ^ 29 := by decide) : Codec F (List β) :=
  ofValues v number valid [] id
    (fun depth bs p => (v.merge depth v.default p).update bs fun b => bs ++ [b])
    fun {depth} hdepth bs h => by
      have hfold : ∀ pre, bs.foldlM (fun bs b =>
          (v.merge depth v.default (v.encode b)).update bs fun b => bs ++ [b]) pre =
            some (pre ++ bs) := by
        induction bs with
        | nil =>
          intro pre
          rw [List.append_nil]
          rfl
        | cons b bs ih =>
          intro pre
          have htail := ih (fun b hb => h b (List.mem_cons_of_mem _ hb)) (pre ++ [b])
          rw [List.foldlM_cons, v.merge_encode hdepth b (h b List.mem_cons_self)]
          rw [List.append_assoc] at htail
          exact htail
      exact hfold []

/-! ## Several fields -/

/-- A message without fields. -/
def empty : Codec F Unit where
  numbers := []
  default := ()
  height := 0
  merge _ _ _ := some ()
  write _ := []
  size _ := 0
  numbers_valid _ h := absurd h List.not_mem_nil
  merge_unknown _ _ _ := rfl
  number_mem _ _ h := absurd h List.not_mem_nil
  fits_write _ _ _ h := absurd h List.not_mem_nil
  length_write _ _ := rfl
  merge_write _ _ _ := rfl

/-- One field into the one or the other part. -/
def mergeBoth (c : Codec F α) (d : Codec F β) (depth : Nat) (a : α × β) (f : Field) :
    Option (α × β) :=
  (c.merge depth a.1 f).bind fun x => (d.merge depth a.2 f).map fun y => (x, y)

theorem foldlM_left (c : Codec F α) (d : Codec F β) {fs : List Field}
    (h : ∀ f ∈ fs, f.number ∉ d.numbers) (depth : Nat) (a : α) (b : β) :
    fs.foldlM (mergeBoth c d depth) (a, b) = (fs.foldlM (c.merge depth) a).map fun a => (a, b) := by
  induction fs generalizing a with
  | nil => rfl
  | cons f fs ih =>
    rw [List.foldlM_cons, List.foldlM_cons, mergeBoth, d.merge_unknown (h f List.mem_cons_self)]
    cases c.merge depth a f with
    | none => rfl
    | some a => exact ih (fun g hg => h g (List.mem_cons_of_mem _ hg)) a

theorem foldlM_right (c : Codec F α) (d : Codec F β) {fs : List Field}
    (h : ∀ f ∈ fs, f.number ∉ c.numbers) (depth : Nat) (a : α) (b : β) :
    fs.foldlM (mergeBoth c d depth) (a, b) = (fs.foldlM (d.merge depth) b).map fun b => (a, b) := by
  induction fs generalizing b with
  | nil => rfl
  | cons f fs ih =>
    rw [List.foldlM_cons, List.foldlM_cons, mergeBoth, c.merge_unknown (h f List.mem_cons_self)]
    dsimp only
    cases d.merge depth b f with
    | none => rfl
    | some b => exact ih (fun g hg => h g (List.mem_cons_of_mem _ hg)) b

/-- No number is in both lists. -/
def disjointNumbers (ms ns : List Nat) : Bool := ms.all fun n => !ns.elem n

theorem not_mem_of_disjointNumbers {ms ns : List Nat} (h : disjointNumbers ms ns = true) {n : Nat}
    (hn : n ∈ ms) : n ∉ ns := by
  have helem := List.all_eq_true.1 h n hn
  simpa using helem

def prod (c : Codec F α) (d : Codec F β)
    (disjoint : disjointNumbers c.numbers d.numbers = true := by rfl) : Codec F (α × β) where
  numbers := c.numbers ++ d.numbers
  default := (c.default, d.default)
  height := max c.height d.height
  merge := mergeBoth c d
  write a := c.write a.1 ++ d.write a.2
  size a := c.size a.1 + d.size a.2
  numbers_valid n h := (List.mem_append.1 h).elim (c.numbers_valid n) (d.numbers_valid n)
  merge_unknown h depth a := by
    rw [List.mem_append, not_or] at h
    rw [mergeBoth, c.merge_unknown h.1, d.merge_unknown h.2]
    rfl
  number_mem a f h := by
    rcases List.mem_append.1 h with h | h
    · exact List.mem_append_left _ (c.number_mem a.1 f h)
    · exact List.mem_append_right _ (d.number_mem a.2 f h)
  fits_write a hsize f h := by
    rcases List.mem_append.1 h with h | h
    · exact c.fits_write a.1 (by omega) f h
    · exact d.fits_write a.2 (by omega) f h
  length_write a hsize := by
    rw [F.writeFields_append, List.length_append, c.length_write a.1 (by omega),
      d.length_write a.2 (by omega)]
  merge_write {depth} hdepth a hsize := by
    have hd : ∀ f ∈ c.write a.1, f.number ∉ d.numbers :=
      fun f hf => not_mem_of_disjointNumbers disjoint (c.number_mem a.1 f hf)
    have hc : ∀ f ∈ d.write a.2, f.number ∉ c.numbers :=
      fun f hf hmem => not_mem_of_disjointNumbers disjoint hmem (d.number_mem a.2 f hf)
    have hleft := foldlM_left c d hd depth c.default d.default
    have hright := foldlM_right c d hc depth a.1 d.default
    rw [c.merge_write ((le_max_left _ _).trans hdepth) a.1 (by omega)] at hleft
    rw [d.merge_write ((le_max_right _ _).trans hdepth) a.2 (by omega)] at hright
    rw [List.foldlM_append, hleft]
    exact hright

/-- The same message in another form. -/
def equiv (c : Codec F α) (e : α ≃ β) : Codec F β where
  numbers := c.numbers
  default := e c.default
  height := c.height
  merge depth b f := (c.merge depth (e.symm b) f).map e
  write b := c.write (e.symm b)
  size b := c.size (e.symm b)
  numbers_valid := c.numbers_valid
  merge_unknown h depth b := by rw [c.merge_unknown h, Option.map_some, e.apply_symm_apply]
  number_mem b := c.number_mem (e.symm b)
  fits_write b := c.fits_write (e.symm b)
  length_write b := c.length_write (e.symm b)
  merge_write {depth} hdepth b h := by
    have hfold : ∀ (fs : List Field) (a : α), fs.foldlM
        (fun b f => (c.merge depth (e.symm b) f).map e) (e a) =
          (fs.foldlM (c.merge depth) a).map e := by
      intro fs
      induction fs with
      | nil => exact fun _ => rfl
      | cons f fs ih =>
        intro a
        rw [List.foldlM_cons, List.foldlM_cons, e.symm_apply_apply]
        cases c.merge depth a f with
        | none => rfl
        | some a => exact ih a
    rw [hfold, c.merge_write hdepth _ h, Option.map_some, e.apply_symm_apply]

theorem valid_one : 0 < 1 ∧ 1 < 2 ^ 29 := by decide

theorem valid_two : 0 < 2 ∧ 2 < 2 ^ 29 := by decide

/-- An entry of a map is a message with a key and a value. -/
def entry (v : ValueCodec F β) : ValueCodec F (String × β) :=
  ValueCodec.message ((always ValueCodec.string 1 valid_one).prod (always v 2 valid_two))

/-- Putting in all entries of a map, in whatever order, gives the map. -/
theorem foldl_insert_perm {m : CInterop.Map β} {kvs : List (String × β)} (h : kvs.Perm m.toList) :
    kvs.foldl (fun m kv => m.insert kv.1 kv.2) (∅ : CInterop.Map β) = m := by
  have hdistinct : kvs.Pairwise fun a b => ¬ compare a.1 b.1 = .eq :=
    (h.pairwise_iff fun hab => by rwa [Std.OrientedCmp.eq_comm]).2 Std.ExtTreeMap.distinct_keys_toList
  rw [← Std.ExtTreeMap.ofList_eq_foldl]
  refine Std.ExtTreeMap.ext_getElem? fun k => ?_
  cases hk : m[k]? with
  | some b =>
    have hmem : (k, b) ∈ kvs := h.mem_iff.2 (Std.ExtTreeMap.mem_toList_iff_getElem?_eq_some.2 hk)
    exact Std.ExtTreeMap.getElem?_ofList_of_mem Std.ReflCmp.compare_self hdistinct hmem
  | none =>
    refine Std.ExtTreeMap.getElem?_ofList_of_contains_eq_false ?_
    rw [List.contains_eq_mem, decide_eq_false_iff_not, List.mem_map]
    rintro ⟨⟨k', b⟩, hmem, rfl⟩
    rw [Std.ExtTreeMap.mem_toList_iff_getElem?_eq_some.1 (h.mem_iff.1 hmem)] at hk
    cases hk

/-- A map of strings: a later entry replaces an earlier one with its key. -/
def map (v : ValueCodec F β) (number : Nat) (valid : 0 < number ∧ number < 2 ^ 29 := by decide) :
    Codec F (CInterop.Map β) :=
  ofValues (entry v) number valid ∅ F.entries
    (fun depth m p =>
      ((entry v).merge depth (entry v).default p).update m fun kv => m.insert kv.1 kv.2)
    fun {depth} hdepth m h => by
      have hfold : ∀ (kvs : List (String × β)) (m : CInterop.Map β),
          (∀ kv ∈ kvs, (entry v).size kv < 2 ^ 31) → kvs.foldlM (fun m kv =>
            ((entry v).merge depth (entry v).default ((entry v).encode kv)).update m
              fun kv => m.insert kv.1 kv.2) m =
          some (kvs.foldl (fun m kv => m.insert kv.1 kv.2) m) := by
        intro kvs
        induction kvs with
        | nil => exact fun _ _ => rfl
        | cons kv kvs ih =>
          intro m h
          rw [List.foldlM_cons, (entry v).merge_encode hdepth kv (h kv List.mem_cons_self)]
          exact ih _ fun kv hkv => h kv (List.mem_cons_of_mem _ hkv)
      rw [hfold _ _ h, foldl_insert_perm (F.entries_perm m)]

/-- Read a payload for `k`, which may be set already or not. -/
def mergeMember {T : κ → Type} [DecidableEq κ] (v : (k : κ) → ValueCodec F (T k)) (depth : Nat)
    (a : (k : κ) × T k) (p : Payload) (k : κ) : Option ((k : κ) × T k) :=
  ((v k).merge depth (if h : a.1 = k then h ▸ a.2 else (v k).default) p).update a fun b => ⟨k, b⟩

/-- Fields of which one is set at most; `unset` is for none.  Setting one clears another. -/
def oneof {T : κ → Type} [DecidableEq κ] (unset : κ) [Subsingleton (T unset)]
    (number : κ → Nat) (v : (k : κ) → ValueCodec F (T k)) (ks : List κ) (height : Nat)
    (complete : ∀ k, k ≠ unset → k ∈ ks) (notMem : unset ∉ ks)
    (valid : ∀ k ∈ ks, 0 < number k ∧ number k < 2 ^ 29)
    (injective : ∀ k ∈ ks, ∀ k' ∈ ks, number k = number k' → k = k')
    (height_le : ∀ k, (v k).height ≤ height) : Codec F ((k : κ) × T k) where
  numbers := ks.map number
  default := ⟨unset, (v unset).default⟩
  height
  merge depth a f :=
    (ks.find? fun k => number k = f.number).elim (some a) (mergeMember v depth a f.payload)
  write a := if a.1 = unset then [] else fieldsOf (number a.1) (v a.1) [a.2]
  size a := if a.1 = unset then 0 else fieldSize (number a.1) (v a.1) a.2
  numbers_valid n h := by
    obtain ⟨k, hk, rfl⟩ := List.mem_map.1 h
    exact valid k hk
  merge_unknown {f} h depth a := by
    have hnone : ks.find? (fun k => number k = f.number) = none := by
      rw [List.find?_eq_none]
      intro k hk he
      exact h (List.mem_map.2 ⟨k, hk, of_decide_eq_true he⟩)
    rw [hnone]
    rfl
  number_mem a f h := by
    split at h
    · cases h
    · next hset =>
      rw [List.mem_singleton.1 h]
      exact List.mem_map_of_mem (complete _ hset)
  fits_write a hsize f h := by
    split at h
    · cases h
    · next hset =>
      rw [if_neg hset] at hsize
      rw [List.mem_singleton.1 h]
      exact (v a.1).fits_encode a.2 (Nat.lt_of_le_of_lt (Nat.le_add_left _ _) hsize)
  length_write a hsize := by
    split
    · rfl
    · next hset =>
      rw [if_neg hset] at hsize
      have hlt : (v a.1).size a.2 < 2 ^ 31 := Nat.lt_of_le_of_lt (Nat.le_add_left _ _) hsize
      have hlength := length_field (valid _ (complete _ hset)) hlt
      show (F.writeFields [_]).length = _
      rwa [Format.writeFields, List.flatMap_singleton]
  merge_write {depth} hdepth a hsize := by
    obtain ⟨k, b⟩ := a
    by_cases hset : k = unset
    · subst hset
      rw [if_pos rfl, Subsingleton.elim b (v k).default]
      rfl
    · have hk : k ∈ ks := complete k hset
      have hfind : (ks.find? fun k' => number k' = number k) = some k := by
        cases hf : ks.find? fun k' => number k' = number k with
        | none => exact absurd (decide_eq_true rfl) (List.find?_eq_none.1 hf k hk)
        | some k' =>
          have he : number k' = number k := by simpa using List.find?_some hf
          rw [injective k' (List.mem_of_find?_eq_some hf) k hk he]
      rw [if_neg hset] at hsize ⊢
      have hlt : (v k).size b < 2 ^ 31 := Nat.lt_of_le_of_lt (Nat.le_add_left _ _) hsize
      have hmember : mergeMember v depth ⟨unset, (v unset).default⟩ ((v k).encode b) k =
          some ⟨k, b⟩ := by
        rw [mergeMember, dif_neg (Ne.symm hset),
          (v k).merge_encode ((height_le k).trans hdepth) b hlt]
        rfl
      rw [fieldsOf, List.map_cons, List.map_nil, List.foldlM_cons]
      dsimp only
      rw [hfind, Option.elim_some, hmember]
      rfl

end Codec

end Wire
