import NakamaCpp.Lib.Wire

/-!
# A format with varints

A `Format` that puts fields into bytes and takes them out again as protocol buffers do, groups
apart, which it does not read.

    fields that fit are read as they were written                              (readFields_write)
    readFields x = some fs  →  readFields (x ++ y) = fs and those of y        (readFields_append)
-/

namespace Wire

/-! ## Numbers -/

/-- Seven bits a byte, lowest first; all but the last byte have the high bit set. -/
def writeVarintAux : Nat → Nat → Bytes
  | 0, n => [UInt8.ofNat n]
  | k + 1, n =>
    if n < 128 then [UInt8.ofNat n] else UInt8.ofNat (n % 128 + 128) :: writeVarintAux k (n / 128)

def writeVarint (n : Nat) : Bytes := writeVarintAux 9 n

/-- The number is there after ten bytes at the latest. -/
def readVarintAux : Nat → Bytes → Option (Nat × Bytes)
  | 0, _ => none
  | _ + 1, [] => none
  | k + 1, b :: bs =>
    if b.toNat < 128 then some (b.toNat, bs)
    else (readVarintAux k bs).map fun r => (b.toNat % 128 + 128 * r.1, r.2)

/-- Bits above the 64th are dropped. -/
def readVarint (bs : Bytes) : Option (Nat × Bytes) :=
  (readVarintAux 10 bs).map fun r => (r.1 % 2 ^ 64, r.2)

/-- `k` bytes, lowest first. -/
def writeFixed : Nat → Nat → Bytes
  | 0, _ => []
  | k + 1, n => UInt8.ofNat (n % 256) :: writeFixed k (n / 256)

def readFixed : Nat → Bytes → Option (Nat × Bytes)
  | 0, bs => some (0, bs)
  | _ + 1, [] => none
  | k + 1, b :: bs => (readFixed k bs).map fun r => (b.toNat + 256 * r.1, r.2)

theorem toNat_ofNat {n : Nat} (h : n < 256) : (UInt8.ofNat n).toNat = n := by
  rw [UInt8.toNat_ofNat', Nat.mod_eq_of_lt h]

theorem div_lt {k n : Nat} (h : n < 2 ^ (7 * (k + 1 + 1))) : n / 128 < 2 ^ (7 * (k + 1)) := by
  rw [Nat.div_lt_iff_lt_mul (by decide)]
  calc n < 2 ^ (7 * (k + 1 + 1)) := h
    _ = 2 ^ (7 * (k + 1)) * 128 := by rw [Nat.mul_add_one 7 (k + 1), Nat.pow_add]

theorem readVarintAux_write (k n : Nat) (h : n < 2 ^ (7 * (k + 1))) (rest : Bytes) :
    readVarintAux (k + 1) (writeVarintAux k n ++ rest) = some (n, rest) := by
  induction k generalizing n with
  | zero =>
    have hn : n < 128 := h
    show readVarintAux 1 (UInt8.ofNat n :: rest) = _
    rw [readVarintAux, toNat_ofNat (by omega), if_pos hn]
  | succ k ih =>
    rw [writeVarintAux]
    split
    · next hn =>
      show readVarintAux (k + 2) (UInt8.ofNat n :: rest) = _
      rw [readVarintAux, toNat_ofNat (by omega), if_pos hn]
    · next hn =>
      have hbyte : (UInt8.ofNat (n % 128 + 128)).toNat = n % 128 + 128 := toNat_ofNat (by omega)
      rw [List.cons_append, readVarintAux, hbyte, if_neg (by omega), ih _ (div_lt h),
        Option.map_some]
      congr 2
      omega

theorem readVarint_write {n : Nat} (h : n < 2 ^ 64) (rest : Bytes) :
    readVarint (writeVarint n ++ rest) = some (n, rest) := by
  rw [readVarint, writeVarint, readVarintAux_write 9 n (by omega), Option.map_some,
    Nat.mod_eq_of_lt h]

theorem readVarintAux_append {k : Nat} {bs rest : Bytes} {n : Nat}
    (h : readVarintAux k bs = some (n, rest)) (t : Bytes) :
    readVarintAux k (bs ++ t) = some (n, rest ++ t) ∧ rest.length < bs.length := by
  induction k generalizing bs n with
  | zero => cases h
  | succ k ih =>
    cases bs with
    | nil => cases h
    | cons b bs =>
      rw [readVarintAux] at h
      rw [List.cons_append, readVarintAux]
      split at h
      · next hb =>
        cases h
        exact ⟨if_pos hb, Nat.lt_succ_self _⟩
      · next hb =>
        obtain ⟨⟨m, r⟩, hr, he⟩ := Option.map_eq_some_iff.1 h
        cases he
        obtain ⟨hread, hlt⟩ := ih hr
        rw [if_neg hb, hread]
        exact ⟨rfl, Nat.lt_succ_of_lt hlt⟩

theorem readVarint_append {bs rest : Bytes} {n : Nat} (h : readVarint bs = some (n, rest))
    (t : Bytes) : readVarint (bs ++ t) = some (n, rest ++ t) ∧ rest.length < bs.length := by
  obtain ⟨⟨m, r⟩, hr, he⟩ := Option.map_eq_some_iff.1 h
  cases he
  obtain ⟨hread, hlt⟩ := readVarintAux_append hr t
  exact ⟨by rw [readVarint, hread]; rfl, hlt⟩

theorem readFixed_write (k n : Nat) (h : n < 2 ^ (8 * k)) (rest : Bytes) :
    readFixed k (writeFixed k n ++ rest) = some (n, rest) := by
  induction k generalizing n with
  | zero =>
    have hn : n = 0 := by omega
    rw [hn]
    rfl
  | succ k ih =>
    have hdiv : n / 256 < 2 ^ (8 * k) := by
      rw [Nat.div_lt_iff_lt_mul (by decide)]
      calc n < 2 ^ (8 * (k + 1)) := h
        _ = 2 ^ (8 * k) * 256 := by rw [Nat.mul_add_one 8 k, Nat.pow_add]
    rw [writeFixed, List.cons_append, readFixed, ih _ hdiv, toNat_ofNat (by omega), Option.map_some]
    congr 2
    omega

theorem readFixed_append {k : Nat} {bs rest : Bytes} {n : Nat}
    (h : readFixed k bs = some (n, rest)) (t : Bytes) :
    readFixed k (bs ++ t) = some (n, rest ++ t) ∧ rest.length ≤ bs.length := by
  induction k generalizing bs n with
  | zero =>
    cases h
    exact ⟨rfl, le_rfl⟩
  | succ k ih =>
    cases bs with
    | nil => cases h
    | cons b bs =>
      obtain ⟨⟨m, r⟩, hr, he⟩ := Option.map_eq_some_iff.1 h
      cases he
      obtain ⟨hread, hle⟩ := ih hr
      exact ⟨by rw [List.cons_append, readFixed, hread]; rfl, Nat.le_succ_of_le hle⟩

theorem length_writeFixed (k n : Nat) : (writeFixed k n).length = k := by
  induction k generalizing n with
  | zero => rfl
  | succ k ih => rw [writeFixed, List.length_cons, ih]

/-- A tag, whatever its wire type is. -/
theorem length_writeVarint_tag {number wireType : Nat} (hnumber : number < 2 ^ 29)
    (htype : wireType < 8) : (writeVarint (number * 8 + wireType)).length = tagSize number := by
  have hlast : (number * 8 + wireType) / 128 / 128 / 128 / 128 < 128 := by omega
  unfold writeVarint tagSize
  simp only [writeVarintAux]
  split_ifs <;> first | rfl | omega

/-! ## Fields -/

def Payload.wireType : Payload → Nat
  | .varint _ => 0
  | .fixed64 _ => 1
  | .bytes _ => 2
  | .fixed32 _ => 5

def Payload.write : Payload → Bytes
  | .varint n => writeVarint n.toNat
  | .fixed64 n => writeFixed 8 n.toNat
  | .bytes b => writeVarint b.length ++ b
  | .fixed32 n => writeFixed 4 n.toNat

def Field.write (f : Field) : Bytes :=
  writeVarint (f.number * 8 + f.payload.wireType) ++ f.payload.write

/-- The payload of a wire type. -/
def readPayload (wireType : Nat) (bs : Bytes) : Option (Payload × Bytes) :=
  match wireType with
  | 0 => (readVarint bs).map fun r => (.varint (.ofNat r.1), r.2)
  | 1 => (readFixed 8 bs).map fun r => (.fixed64 (.ofNat r.1), r.2)
  | 2 => do
    let (length, bs) ← readVarint bs
    if length ≤ bs.length ∧ length < 2 ^ 31 then some (.bytes (bs.take length), bs.drop length)
    else none
  | 5 => (readFixed 4 bs).map fun r => (.fixed32 (.ofNat r.1), r.2)
  | _ => none

/-- A tag is a 32-bit number; there is no field 0. -/
def readField (bs : Bytes) : Option (Field × Bytes) := do
  let (tag, bs) ← readVarint bs
  let number := tag % 2 ^ 32 / 8
  if number = 0 then none
  else (readPayload (tag % 8) bs).map fun r => (⟨number, r.1⟩, r.2)

/-- A field takes a byte at least. -/
def readFieldsAux : Nat → Bytes → Option (List Field)
  | _, [] => some []
  | 0, _ :: _ => none
  | fuel + 1, b :: bs => do
    let (f, rest) ← readField (b :: bs)
    (readFieldsAux fuel rest).map fun fs => f :: fs

def readFields (bs : Bytes) : Option (List Field) := readFieldsAux bs.length bs

theorem readPayload_append {wireType : Nat} {bs rest : Bytes} {p : Payload}
    (h : readPayload wireType bs = some (p, rest)) (t : Bytes) :
    readPayload wireType (bs ++ t) = some (p, rest ++ t) ∧ rest.length ≤ bs.length := by
  unfold readPayload at h ⊢
  split at h
  · obtain ⟨⟨n, r⟩, hr, he⟩ := Option.map_eq_some_iff.1 h
    cases he
    obtain ⟨hread, hlt⟩ := readVarint_append hr t
    exact ⟨by rw [hread]; rfl, hlt.le⟩
  · obtain ⟨⟨n, r⟩, hr, he⟩ := Option.map_eq_some_iff.1 h
    cases he
    obtain ⟨hread, hle⟩ := readFixed_append hr t
    exact ⟨by rw [hread]; rfl, hle⟩
  · obtain ⟨⟨length, r⟩, hr, h⟩ := Option.bind_eq_some_iff.1 h
    obtain ⟨hread, hlt⟩ := readVarint_append hr t
    dsimp only at h
    split at h
    · next hlength =>
      cases h
      have hle : length ≤ (r ++ t).length := by
        rw [List.length_append]
        omega
      refine ⟨?_, ?_⟩
      · simp only [hread, Option.bind_eq_bind, Option.bind_some, hle, hlength.2, and_self, if_true]
        rw [List.take_append_of_le_length hlength.1, List.drop_append_of_le_length hlength.1]
      · rw [List.length_drop]
        omega
    · cases h
  · obtain ⟨⟨n, r⟩, hr, he⟩ := Option.map_eq_some_iff.1 h
    cases he
    obtain ⟨hread, hle⟩ := readFixed_append hr t
    exact ⟨by rw [hread]; rfl, hle⟩
  · cases h

/-- What follows a field does not matter to it, and it has taken at least its tag. -/
theorem readField_append {bs rest : Bytes} {f : Field} (h : readField bs = some (f, rest))
    (t : Bytes) : readField (bs ++ t) = some (f, rest ++ t) ∧ rest.length < bs.length := by
  obtain ⟨⟨tag, r⟩, hr, h⟩ := Option.bind_eq_some_iff.1 h
  obtain ⟨hread, hlt⟩ := readVarint_append hr t
  dsimp only at h
  split at h
  · cases h
  · next hnumber =>
    obtain ⟨⟨p, r'⟩, hp, he⟩ := Option.map_eq_some_iff.1 h
    cases he
    obtain ⟨hpayload, hle⟩ := readPayload_append hp t
    refine ⟨?_, Nat.lt_of_le_of_lt hle hlt⟩
    simp only [readField, hread, Option.bind_eq_bind, Option.bind_some]
    rw [if_neg hnumber, hpayload, Option.map_some]

theorem wireType_lt (p : Payload) : p.wireType < 8 := by
  cases p <;> simp [Payload.wireType]

theorem readPayload_write {p : Payload} (hp : p.Fits) (rest : Bytes) :
    readPayload p.wireType (p.write ++ rest) = some (p, rest) := by
  cases p with
  | varint n =>
    show readPayload 0 (writeVarint n.toNat ++ rest) = _
    rw [readPayload, readVarint_write n.toNat_lt, Option.map_some, UInt64.ofNat_toNat]
  | fixed64 n =>
    show readPayload 1 (writeFixed 8 n.toNat ++ rest) = _
    rw [readPayload, readFixed_write 8 n.toNat n.toNat_lt, Option.map_some, UInt64.ofNat_toNat]
  | bytes b =>
    have hb : b.length < 2 ^ 31 := hp
    have hle : b.length ≤ (b ++ rest).length := by
      rw [List.length_append]
      exact Nat.le_add_right _ _
    show readPayload 2 (writeVarint b.length ++ b ++ rest) = _
    rw [List.append_assoc, readPayload, readVarint_write (by omega)]
    simp only [Option.bind_eq_bind, Option.bind_some]
    rw [if_pos ⟨hle, hb⟩, List.take_left, List.drop_left]
  | fixed32 n =>
    show readPayload 5 (writeFixed 4 n.toNat ++ rest) = _
    rw [readPayload, readFixed_write 4 n.toNat n.toNat_lt, Option.map_some, UInt32.ofNat_toNat]

theorem readField_write {f : Field} (hf : f.Fits) (rest : Bytes) :
    readField (f.write ++ rest) = some (f, rest) := by
  have hpos : 0 < f.number := hf.pos
  have hlt : f.number < 2 ^ 29 := hf.lt
  have hwire : f.payload.wireType < 8 := wireType_lt f.payload
  have htag : f.number * 8 + f.payload.wireType < 2 ^ 64 := by omega
  have hnumber : (f.number * 8 + f.payload.wireType) % 2 ^ 32 / 8 = f.number := by omega
  have htype : (f.number * 8 + f.payload.wireType) % 8 = f.payload.wireType := by omega
  rw [Field.write, List.append_assoc, readField, readVarint_write htag]
  simp only [Option.bind_eq_bind, Option.bind_some]
  rw [hnumber, htype, if_neg (Nat.ne_of_gt hpos), readPayload_write hf.payload, Option.map_some]

/-- More fuel than there are bytes changes nothing. -/
theorem readFieldsAux_fuel {fuel : Nat} {bs : Bytes} (h : bs.length ≤ fuel) :
    readFieldsAux fuel bs = readFields bs := by
  have hany : ∀ (fuel fuel' : Nat) (bs : Bytes), bs.length ≤ fuel → bs.length ≤ fuel' →
      readFieldsAux fuel bs = readFieldsAux fuel' bs := by
    intro fuel
    induction fuel with
    | zero =>
      intro fuel' bs h _
      obtain rfl := List.length_eq_zero_iff.1 (Nat.le_zero.1 h)
      cases fuel' <;> rfl
    | succ fuel ih =>
      intro fuel' bs h h'
      cases bs with
      | nil => cases fuel' <;> rfl
      | cons b bs =>
        cases fuel' with
        | zero => cases h'
        | succ fuel' =>
          rw [readFieldsAux, readFieldsAux]
          cases hfield : readField (b :: bs) with
          | none => rfl
          | some r =>
            have hlt := (readField_append hfield []).2
            rw [List.length_cons] at h h' hlt
            have hr := ih fuel' r.2 (by omega) (by omega)
            simp only [Option.bind_eq_bind, Option.bind_some, hr]
  exact hany _ _ _ h le_rfl

/-- One field, and the rest. -/
theorem readFields_field {bs rest : Bytes} {f : Field} (h : readField bs = some (f, rest)) :
    readFields bs = (readFields rest).map fun fs => f :: fs := by
  have hlt := (readField_append h []).2
  cases bs with
  | nil => cases hlt
  | cons b bs =>
    rw [List.length_cons] at hlt
    have hle : rest.length ≤ bs.length := Nat.le_of_lt_succ hlt
    show readFieldsAux (bs.length + 1) (b :: bs) = _
    rw [readFieldsAux, h]
    simp only [Option.bind_eq_bind, Option.bind_some, readFieldsAux_fuel hle]

/-- Bytes that are read completely do not depend on what follows. -/
theorem readFields_append {x : Bytes} {fs : List Field} (h : readFields x = some fs) (y : Bytes) :
    readFields (x ++ y) = (readFields y).map fun fs' => fs ++ fs' := by
  induction hn : x.length using Nat.strongRecOn generalizing x fs with
  | ind n ih =>
    cases x with
    | nil =>
      cases h
      show readFields y = _
      cases readFields y <;> rfl
    | cons b x =>
      cases hfield : readField (b :: x) with
      | none =>
        unfold readFields at h
        rw [List.length_cons, readFieldsAux, hfield] at h
        cases h
      | some r =>
        obtain ⟨f, rest⟩ := r
        obtain ⟨hfield', hlt⟩ := readField_append hfield y
        rw [readFields_field hfield] at h
        obtain ⟨fs', hfs', rfl⟩ := Option.map_eq_some_iff.1 h
        rw [readFields_field hfield', ih rest.length (by omega) hfs' rfl, Option.map_map]
        rfl

/-- Fields that are written are read again. -/
theorem readFields_write {fs : List Field} (h : ∀ f ∈ fs, f.Fits) :
    readFields (fs.flatMap Field.write) = some fs := by
  induction fs with
  | nil => rfl
  | cons f fs ih =>
    have hfield := readField_write (h f List.mem_cons_self) (fs.flatMap Field.write)
    rw [List.flatMap_cons, readFields_field hfield, ih fun g hg => h g (List.mem_cons_of_mem _ hg)]
    rfl

theorem toBool_toUInt64 : ∀ b : Bool, decide (b.toUInt64 ≠ 0) = b := by decide

theorem fromUTF8?_toUTF8 (s : String) : String.fromUTF8? ⟨s.toUTF8.data.toList.toArray⟩ = some s := by
  show String.fromUTF8? s.toByteArray = some s
  rw [String.fromUTF8?, dif_pos s.isValidUTF8]
  rfl

/-- A number of 32 bits is sign-extended, and its lower half is read; the limit is the default
one. -/
def varintFormat : Format where
  bool := ⟨Bool.toUInt64, fun n => n ≠ 0, toBool_toUInt64⟩
  int32 := ⟨fun n => n.toInt64.toUInt64, fun n => n.toInt64.toInt32, Int32.toInt32_toInt64⟩
  int64 := ⟨Int64.toUInt64, UInt64.toInt64, fun _ => rfl⟩
  readString bs := String.fromUTF8? ⟨bs.toArray⟩
  readString_toUTF8 := fromUTF8?_toUTF8
  recursionLimit := 100
  write := Field.write
  varintSize n := (writeVarint n.toNat).length
  lengthDelimitedSize n := (writeVarint n).length + n
  read _ := readFields
  entries m := m.toList
  length_write {f} hf := by
    rw [Field.write, List.length_append, length_writeVarint_tag hf.lt (wireType_lt _)]
    cases f.payload with
    | varint n => rfl
    | fixed64 n => exact congrArg _ (length_writeFixed 8 _)
    | bytes b => exact congrArg _ List.length_append
    | fixed32 n => exact congrArg _ (length_writeFixed 4 _)
  le_lengthDelimitedSize _ := Nat.le_add_left _ _
  read_write h _ := readFields_write h
  read_append h _ := readFields_append h _
  entries_perm _ := .refl _

end Wire
