import Mathlib

/-!
# Values at a C interface

A zero-terminated string, an array given by a pointer and a 16-bit count, bytes with a 32-bit
count, and a map of strings that is written and read key by key.  A C++ value goes out through such a form and
comes back from it; what comes back is what went out

    a string   : exactly when it has no NUL                              (text_ofString_iff)
    a list     : exactly when its length fits 16 bits                    (toList_ofList_iff)
    bytes      : exactly when their number fits 32 bits                  (toBytes_ofBytes_iff)
    a map      : exactly when no text has a NUL and its size fits 16 bits      (readMap_eq_iff)
-/

namespace CInterop

open Std (ExtTreeMap compare_self)

/-! ## Strings -/

def NulFree (s : String) : Prop := '\x00' ∉ s.toList

instance (s : String) : Decidable (NulFree s) := inferInstanceAs (Decidable (¬ _))

/-- None of the strings has a NUL. -/
def AllNulFree (l : List String) : Prop := ∀ s ∈ l, NulFree s

theorem allNulFree_cons {s : String} {l : List String} :
    AllNulFree (s :: l) ↔ NulFree s ∧ AllNulFree l := List.forall_mem_cons

theorem allNulFree_nil : AllNulFree [] ↔ True := by
  refine iff_true_intro fun s hs => ?_
  cases hs

theorem allNulFree_append {l l' : List String} :
    AllNulFree (l ++ l') ↔ AllNulFree l ∧ AllNulFree l' := List.forall_mem_append

theorem AllNulFree.of_mem_flatMap {α : Type} {f : α → List String} {l : List α}
    (h : AllNulFree (l.flatMap f)) {a : α} (ha : a ∈ l) : AllNulFree (f a) := fun s hs =>
  h s (List.mem_flatMap.2 ⟨a, ha, hs⟩)

instance (l : List String) : Decidable (AllNulFree l) := inferInstanceAs (Decidable (∀ s ∈ l, _))

/-- What a `const char*` that is not null points to, up to its terminator. -/
structure CStr where
  text : String
  nulFree : NulFree text
deriving DecidableEq

theorem nulFree_takeWhile (l : List Char) :
    NulFree (String.ofList (l.takeWhile fun c => c != '\x00')) := by
  intro h
  rw [String.toList_ofList] at h
  have := List.mem_takeWhile_imp h
  exact absurd rfl (bne_iff_ne.1 this)

namespace CStr

/-- `s.c_str()`. -/
def ofString (s : String) : CStr := ⟨_, nulFree_takeWhile s.toList⟩

theorem text_ofString_iff {s : String} : (ofString s).text = s ↔ NulFree s := by
  constructor
  · intro h
    rw [← h]
    exact (ofString s).nulFree
  · intro h
    have hall : s.toList.takeWhile (fun c => c != '\x00') = s.toList := by
      rw [List.takeWhile_eq_self_iff]
      intro c hc
      exact bne_iff_ne.2 fun he => h (he ▸ hc)
    show String.ofList _ = s
    rw [hall, String.ofList_toList]

theorem text_ofString {s : String} (h : NulFree s) : (ofString s).text = s := text_ofString_iff.2 h

theorem map_text_ofString {s : Option String} (h : AllNulFree s.toList) :
    (s.map ofString).map text = s := by
  cases s with
  | none => rfl
  | some t => exact congrArg some (text_ofString (h t List.mem_cons_self))

end CStr

/-! ## Arrays -/

variable {α β γ : Type}

/-- A pointer from which `count` elements can be read. -/
structure CArray (α : Type) where
  elems : List α
  count : UInt16
  readable : count.toNat ≤ elems.length

/-- The length fits 16 bits. -/
def Counted (l : List α) : Prop := l.length < 2 ^ 16

instance (l : List α) : Decidable (Counted l) := inferInstanceAs (Decidable (_ < _))

theorem toNat_length (l : List α) : l.length.toUInt16.toNat = l.length % 2 ^ 16 := UInt16.toNat_ofNat'

theorem toNat_length_le (l : List α) : l.length.toUInt16.toNat ≤ l.length := by
  rw [toNat_length]
  exact Nat.mod_le _ _

namespace CArray

/-- A loop over the first `count` elements. -/
def toList (a : CArray α) : List α := a.elems.take a.count.toNat

/-- `l.data()` and `(uint16_t) l.size()`. -/
def ofList (l : List α) : CArray α := ⟨l, l.length.toUInt16, toNat_length_le l⟩

/-- A new array of `(uint16_t) l.size()` elements, filled from `l`. -/
def alloc (f : α → β) (l : List α) : CArray β where
  elems := (l.take l.length.toUInt16.toNat).map f
  count := l.length.toUInt16
  readable := by
    rw [List.length_map, List.length_take]
    exact le_min le_rfl (toNat_length_le l)

theorem take_eq_self_iff {l : List α} : l.take l.length.toUInt16.toNat = l ↔ Counted l := by
  rw [List.take_eq_self_iff, toNat_length]
  unfold Counted
  constructor
  · intro h
    exact lt_of_le_of_lt h (Nat.mod_lt _ (by norm_num))
  · intro h
    exact le_of_eq (Nat.mod_eq_of_lt h).symm

theorem toList_ofList_iff {l : List α} : (ofList l).toList = l ↔ Counted l := take_eq_self_iff

theorem toList_ofList {l : List α} (h : Counted l) : (ofList l).toList = l := toList_ofList_iff.2 h

theorem toList_alloc (f : α → β) {l : List α} (h : Counted l) : (alloc f l).toList = l.map f := by
  show ((l.take _).map f).take _ = _
  rw [take_eq_self_iff.2 h]
  have hm : Counted (l.map f) := by rwa [Counted, List.length_map]
  have htake := take_eq_self_iff.2 hm
  rwa [List.length_map] at htake

/-- What comes back from each element comes back from the array. -/
theorem map_toList_alloc {f : α → β} {g : β → α} {l : List α} (hl : Counted l)
    (hfg : ∀ a ∈ l, g (f a) = a) : (alloc f l).toList.map g = l := by
  rw [toList_alloc f hl, List.map_map]
  conv_rhs => rw [← List.map_id l]
  exact List.map_congr_left hfg

theorem mapM_toList_alloc {f : α → β} {g : β → Option α} {l : List α} (hl : Counted l)
    (hfg : ∀ a ∈ l, g (f a) = some a) : (alloc f l).toList.mapM g = some l := by
  rw [toList_alloc f hl]
  clear hl
  induction l with
  | nil => rfl
  | cons a l ih =>
    rw [List.map_cons, List.mapM_cons, hfg a List.mem_cons_self,
      ih fun b hb => hfg b (List.mem_cons_of_mem _ hb)]
    rfl

theorem toList_alloc_take (f : α → β) (l : List α) :
    (alloc f l).toList = (l.take (l.length % 2 ^ 16)).map f := by
  show ((l.take l.length.toUInt16.toNat).map f).take l.length.toUInt16.toNat = _
  rw [← List.map_take, List.take_take, min_self, toNat_length]

theorem toList_ofList_take (f : α → β) (l : List α) :
    (ofList (l.map f)).toList = (l.take (l.length % 2 ^ 16)).map f := by
  show (l.map f).take (l.map f).length.toUInt16.toNat = _
  rw [List.length_map, toNat_length, List.map_take]

theorem some_map (f : α → β) (l : List α) : some (l.map f) = l.mapM fun a => some (f a) := by
  induction l with
  | nil => rfl
  | cons a l ih =>
    rw [List.mapM_cons, ← ih]
    rfl

theorem mapM_alloc (f : α → β) (g : β → Option α) (l : List α) :
    (alloc f l).toList.mapM g = (l.take (l.length % 2 ^ 16)).mapM fun a => g (f a) := by
  rw [toList_alloc_take, List.mapM_map]
  rfl

theorem some_map_alloc (f : α → β) (g : β → α) (l : List α) :
    some ((alloc f l).toList.map g) =
      (l.take (l.length % 2 ^ 16)).mapM fun a => some (g (f a)) := by
  rw [some_map, mapM_alloc]

theorem some_map_ofList (f : α → β) (g : β → α) (l : List α) :
    some ((ofList (l.map f)).toList.map g) =
      (l.take (l.length % 2 ^ 16)).mapM fun a => some (g (f a)) := by
  rw [toList_ofList_take, ← toList_alloc_take, some_map_alloc]

theorem mapM_eq_some_iff {f : α → Option β} {l : List α} :
    ∀ {r : List β}, l.mapM f = some r ↔ List.Forall₂ (fun a b => f a = some b) l r := by
  induction l with
  | nil =>
    intro r
    rw [List.mapM_nil, List.forall₂_nil_left_iff]
    exact Option.some_inj.trans eq_comm
  | cons a l ih =>
    intro r
    rw [List.mapM_cons, List.forall₂_cons_left_iff]
    simp only [Option.bind_eq_bind, Option.bind_eq_some_iff, ih]
    constructor
    · rintro ⟨b, hb, r, hr, he⟩
      exact ⟨b, r, hb, hr, (Option.some.inj he).symm⟩
    · rintro ⟨b, r, hb, hr, rfl⟩
      exact ⟨b, hb, r, hr, rfl⟩

/-- Some of the elements come back as all of them only if they are all. -/
theorem mapM_take_eq_some_iff {f : α → Option α} {l : List α} :
    (l.take (l.length % 2 ^ 16)).mapM f = some l ↔ Counted l ∧ ∀ a ∈ l, f a = some a := by
  have hall : ∀ l : List α, l.mapM f = some l ↔ ∀ a ∈ l, f a = some a := by
    intro l
    rw [mapM_eq_some_iff, List.forall₂_same]
  constructor
  · intro h
    have hlen : (l.take (l.length % 2 ^ 16)).length = l.length :=
      (mapM_eq_some_iff.1 h).length_eq
    have hl : Counted l := by
      have hmod := Nat.mod_lt l.length (show 0 < 2 ^ 16 by norm_num)
      rw [List.length_take] at hlen
      unfold Counted
      omega
    rw [Nat.mod_eq_of_lt hl, List.take_length] at h
    exact ⟨hl, (hall l).1 h⟩
  · rintro ⟨hl, h⟩
    rw [Nat.mod_eq_of_lt hl, List.take_length]
    exact (hall l).2 h

theorem map_toList_alloc_iff {f : α → β} {g : β → α} {l : List α} :
    (alloc f l).toList.map g = l ↔ Counted l ∧ ∀ a ∈ l, g (f a) = a := by
  rw [← Option.some_inj, some_map_alloc, mapM_take_eq_some_iff]
  simp only [Option.some_inj]

theorem map_toList_ofList {f : α → β} {g : β → α} {l : List α} (hl : Counted l)
    (hfg : ∀ a ∈ l, g (f a) = a) : (ofList (l.map f)).toList.map g = l := by
  have hl' : Counted (l.map f) := by rwa [Counted, List.length_map]
  rw [toList_ofList hl', List.map_map]
  conv_rhs => rw [← List.map_id l]
  exact List.map_congr_left hfg

end CArray

/-- A list whose length fits, of elements with `P`. -/
def EachCounted (P : α → Prop) (l : List α) : Prop := Counted l ∧ ∀ a ∈ l, P a

theorem EachCounted.map_toList_alloc {P : α → Prop} {l : List α} (h : EachCounted P l) {f : α → β}
    {g : β → α} (hfg : ∀ a, P a → g (f a) = a) : (CArray.alloc f l).toList.map g = l :=
  CArray.map_toList_alloc h.1 fun a ha => hfg a (h.2 a ha)

theorem EachCounted.mapM_toList_alloc {P : α → Prop} {l : List α} (h : EachCounted P l) {f : α → β}
    {g : β → Option α} (hfg : ∀ a, P a → g (f a) = some a) :
    (CArray.alloc f l).toList.mapM g = some l :=
  CArray.mapM_toList_alloc h.1 fun a ha => hfg a (h.2 a ha)

/-! ## Bytes -/

/-- A pointer from which `size` bytes can be read. -/
structure CBytes where
  bytes : ByteArray
  size : UInt32
  readable : size.toNat ≤ bytes.size

namespace CBytes

/-- The first `size` bytes. -/
def toBytes (c : CBytes) : ByteArray := c.bytes.extract 0 c.size.toNat

/-- `b.data()` and `(uint32_t) b.size()`. -/
def ofBytes (b : ByteArray) : CBytes where
  bytes := b
  size := b.size.toUInt32
  readable := by
    show (UInt32.ofNat b.size).toNat ≤ b.size
    rw [UInt32.toNat_ofNat']
    exact Nat.mod_le _ _

theorem toBytes_ofBytes_iff {b : ByteArray} : (ofBytes b).toBytes = b ↔ b.size < 2 ^ 32 := by
  have hsize : (ofBytes b).size.toNat = b.size % 2 ^ 32 := UInt32.toNat_ofNat'
  constructor
  · intro h
    have hle : (ofBytes b).toBytes.size ≤ b.size % 2 ^ 32 := by
      rw [toBytes, ByteArray.size_extract, hsize]
      omega
    rw [h] at hle
    exact lt_of_le_of_lt hle (Nat.mod_lt _ (by norm_num))
  · intro h
    show b.extract 0 (ofBytes b).size.toNat = b
    rw [hsize, Nat.mod_eq_of_lt h, ByteArray.extract_zero_size]

end CBytes

/-! ## Maps -/

abbrev Map (β : Type) := ExtTreeMap String β

/-- A new map, filled entry by entry through `c_str()`. -/
def writeMap (value : β → β) (m : Map β) : Map β :=
  m.toList.foldl (fun m' p => m'.insert (CStr.ofString p.1).text (value p.2)) ∅

/-- The entries that `getKeys` writes, one after the other. -/
def keyTexts (m : Map β) : List CStr := m.keys.map CStr.ofString

/-- `getKeys` into an array of `n` entries; `none` when it writes past the end. -/
def writeKeys (m : Map β) (n : Nat) : Option (List CStr) :=
  if (keyTexts m).length ≤ n then some (keyTexts m) else none

/-- One turn of the loop of `readMap`; `missing` says what a key that is not found does. -/
def readKey (value : β → β) (missing : Map β → Option (Map β)) (m m' : Map β) (key : CStr) :
    Option (Map β) :=
  match m[key.text]? with
  | some v => some (m'.insertIfNew key.text (value v))
  | none => missing m'

/-- A map read key by key, through an array of `(uint16_t) m.size()` keys. -/
def readMap (value : β → β) (missing : Map β → Option (Map β)) (m : Map β) : Option (Map β) :=
  if 0 < m.size.toUInt16 then
    (writeKeys m m.size.toUInt16.toNat).bind fun keys => keys.foldlM (readKey value missing m) ∅
  else some ∅

theorem ofList_toList (m : Map β) : ExtTreeMap.ofList m.toList = m := by
  ext k v
  by_cases hk : k ∈ m
  · obtain ⟨w, hw⟩ := Option.isSome_iff_exists.1 (ExtTreeMap.mem_iff_isSome_getElem?.1 hk)
    rw [hw, ExtTreeMap.getElem?_ofList_of_mem (k := k) (v := w) compare_self
      ExtTreeMap.distinct_keys_toList (ExtTreeMap.mem_toList_iff_getElem?_eq_some.2 hw)]
  · have hnone : (m.toList.map Prod.fst).contains k = false := by
      rw [ExtTreeMap.map_fst_toList_eq_keys]
      simpa using hk
    rw [ExtTreeMap.getElem?_ofList_of_contains_eq_false hnone, ExtTreeMap.getElem?_eq_none hk]

theorem writeMap_eq {value : β → β} {m : Map β} (hk : ∀ k ∈ m, NulFree k)
    (hv : ∀ (k : String) (v : β), m[k]? = some v → value v = v) : writeMap value m = m := by
  have hmap : m.toList.map (fun p => ((CStr.ofString p.1).text, value p.2)) = m.toList := by
    conv_rhs => rw [← List.map_id m.toList]
    refine List.map_congr_left fun p hp => ?_
    have hget := ExtTreeMap.mem_toList_iff_getElem?_eq_some.1 hp
    have hmem : p.1 ∈ m := ExtTreeMap.mem_iff_isSome_getElem?.2 (by rw [hget]; rfl)
    exact Prod.ext (CStr.text_ofString (hk _ hmem)) (hv _ _ hget)
  have hfold : writeMap value m =
      (m.toList.map fun p => ((CStr.ofString p.1).text, value p.2)).foldl
        (fun m' p => m'.insert p.1 p.2) ∅ := by
    rw [List.foldl_map]
    rfl
  rw [hfold, hmap, ← ExtTreeMap.ofList_eq_foldl, ofList_toList]

/-- The loop of `readMap`, over any of the keys and on top of any part of the map. -/
theorem foldlM_read {value : β → β} (missing : Map β → Option (Map β)) {m : Map β}
    (hk : ∀ k ∈ m, NulFree k) (hv : ∀ (k : String) (v : β), m[k]? = some v → value v = v) :
    ∀ (ks : List String) (acc : Map β), (∀ k ∈ ks, k ∈ m) → (∀ (k : String) (v : β), acc[k]? = some v → m[k]? = some v) →
      ∃ r, (ks.map CStr.ofString).foldlM (readKey value missing m) acc = some r ∧
        ∀ k : String, r[k]? = if k ∈ ks then m[k]? else acc[k]? := by
  intro ks
  induction ks with
  | nil =>
    intro acc _ _
    exact ⟨acc, rfl, fun k => by rw [if_neg List.not_mem_nil]⟩
  | cons key ks ih =>
    intro acc hks hacc
    have hmem : key ∈ m := hks key List.mem_cons_self
    obtain ⟨v, hget⟩ := Option.isSome_iff_exists.1 (ExtTreeMap.mem_iff_isSome_getElem?.1 hmem)
    have hcons : ∀ k : String, (acc.insertIfNew key v)[k]? = if k = key then m[k]? else acc[k]? := by
      intro k
      simp only [ExtTreeMap.getElem?_insertIfNew, compare_eq_iff_eq]
      by_cases h : k = key
      · subst h
        rw [if_pos rfl]
        by_cases hin : k ∈ acc
        · obtain ⟨w, hw⟩ := Option.isSome_iff_exists.1 (ExtTreeMap.mem_iff_isSome_getElem?.1 hin)
          rw [if_neg fun hc => hc.2 hin, hw, hacc k w hw]
        · rw [if_pos ⟨rfl, hin⟩, hget]
      · rw [if_neg h, if_neg fun hc => h hc.1.symm]
    obtain ⟨r, hr, hspec⟩ := ih (acc.insertIfNew key v)
      (fun k hkm => hks k (List.mem_cons_of_mem _ hkm)) fun k w hw => by
        rw [hcons] at hw
        split at hw
        · exact hw
        · exact hacc k w hw
    refine ⟨r, ?_, fun k => ?_⟩
    · have hstep : readKey value missing m acc (.ofString key) = some (acc.insertIfNew key v) := by
        rw [readKey, CStr.text_ofString (hk key hmem), hget]
        exact congrArg (fun w => some (acc.insertIfNew key w)) (hv key v hget)
      rw [List.map_cons, List.foldlM_cons, hstep]
      exact hr
    · rw [hspec, hcons]
      by_cases h : k = key
      · subst h
        rw [if_pos rfl, if_pos List.mem_cons_self]
        split <;> rfl
      · rw [if_neg h]
        have : k ∈ key :: ks ↔ k ∈ ks := by
          rw [List.mem_cons]
          exact ⟨fun hc => hc.resolve_left h, .inr⟩
        simp only [this]

@[simp] theorem length_keyTexts (m : Map β) : (keyTexts m).length = m.size := by
  rw [keyTexts, List.length_map, ExtTreeMap.length_keys]

theorem toNat_size (m : Map β) : m.size.toUInt16.toNat = m.size % 2 ^ 16 := UInt16.toNat_ofNat'

/-- An array of `(uint16_t) m.size()` entries is filled exactly. -/
theorem writeKeys_iff {m : Map β} :
    (∃ keys, writeKeys m m.size.toUInt16.toNat = some keys ∧
      keys.length = m.size.toUInt16.toNat) ↔ m.size < 2 ^ 16 := by
  have hmod := Nat.mod_lt m.size (show 0 < 2 ^ 16 by norm_num)
  rw [toNat_size, writeKeys, length_keyTexts]
  constructor
  · rintro ⟨keys, hkeys, -⟩
    split at hkeys
    · omega
    · cases hkeys
  · intro h
    rw [Nat.mod_eq_of_lt h, if_pos le_rfl]
    exact ⟨_, rfl, length_keyTexts m⟩

/-- Below 2^16 the loop of `readMap` runs over all keys; a larger map is read as empty, or its
keys are written past the end of their array. -/
theorem readMap_cases (value : β → β) (missing : Map β → Option (Map β)) (m : Map β) :
    m.size < 2 ^ 16 ∧ readMap value missing m = (keyTexts m).foldlM (readKey value missing m) ∅ ∨
      2 ^ 16 ≤ m.size ∧ (readMap value missing m = none ∨ readMap value missing m = some ∅) := by
  have hpos : 0 < m.size.toUInt16 ↔ 0 < m.size % 2 ^ 16 := by
    rw [UInt16.lt_iff_toNat_lt, toNat_size, UInt16.toNat_zero]
  simp only [readMap, writeKeys, length_keyTexts, toNat_size, hpos]
  rcases Nat.lt_or_ge m.size (2 ^ 16) with hs | hs
  · left
    refine ⟨hs, ?_⟩
    rw [Nat.mod_eq_of_lt hs]
    split
    · rw [if_pos le_rfl, Option.bind_some]
    · next h0 =>
      have hempty : keyTexts m = [] := by
        rw [← List.length_eq_zero_iff, length_keyTexts]
        omega
      rw [hempty]
      rfl
  · right
    refine ⟨hs, ?_⟩
    split
    · left
      rw [if_neg, Option.bind_none]
      have := Nat.mod_lt m.size (show 0 < 2 ^ 16 by norm_num)
      omega
    · exact .inr rfl

theorem readMap_eq {value : β → β} (missing : Map β → Option (Map β)) {m : Map β}
    (hk : ∀ k ∈ m, NulFree k) (hv : ∀ (k : String) (v : β), m[k]? = some v → value v = v) (hs : m.size < 2 ^ 16) :
    readMap value missing m = some m := by
  obtain ⟨r, hr, hspec⟩ := foldlM_read missing hk hv m.keys ∅
    (fun k h => ExtTreeMap.mem_of_mem_keys h) fun k v h => by
      rw [ExtTreeMap.getElem?_empty] at h
      cases h
  have hrm : r = m := by
    ext k v
    simp only [hspec, ExtTreeMap.mem_keys]
    split
    · rfl
    · next h => rw [ExtTreeMap.getElem?_empty, ExtTreeMap.getElem?_eq_none h]
  rcases readMap_cases value missing m with ⟨-, heq⟩ | ⟨hle, -⟩
  · rw [heq, keyTexts, hr, hrm]
  · exact absurd hs (Nat.not_lt.2 hle)

/-- Every entry of `m` comes from one of `source`, by a key without a NUL. -/
def ReadFrom (value : β → β) (source m : Map β) : Prop :=
  ∀ (k : String) (v : β), m[k]? = some v → NulFree k ∧ ∃ w, source[k]? = some w ∧ v = value w

theorem ReadFrom.empty (value : β → β) (source : Map β) : ReadFrom value source ∅ := by
  intro k v h
  rw [ExtTreeMap.getElem?_empty] at h
  cases h

theorem ReadFrom.readKey {value : β → β} {missing : Map β → Option (Map β)} {source m m' : Map β}
    (hmissing : ∀ m₁ m₂, missing m₁ = some m₂ → m₂ = m₁) (hm : ReadFrom value source m)
    {key : CStr} (h : CInterop.readKey value missing source m key = some m') :
    ReadFrom value source m' := by
  unfold CInterop.readKey at h
  split at h
  · next w hw =>
    cases h
    intro k v hk
    rw [ExtTreeMap.getElem?_insertIfNew] at hk
    split at hk
    · next hc =>
      cases hk
      rw [← compare_eq_iff_eq.1 hc.1]
      exact ⟨key.nulFree, w, hw, rfl⟩
    · exact hm k v hk
  · rw [hmissing _ _ h]
    exact hm

theorem ReadFrom.foldlM {value : β → β} {missing : Map β → Option (Map β)} {source : Map β}
    (hmissing : ∀ m₁ m₂, missing m₁ = some m₂ → m₂ = m₁) (keys : List CStr) :
    ∀ {m r : Map β}, ReadFrom value source m →
      keys.foldlM (CInterop.readKey value missing source) m = some r → ReadFrom value source r := by
  induction keys with
  | nil =>
    intro m r hm h
    cases h
    exact hm
  | cons key keys ih =>
    intro m r hm h
    rw [List.foldlM_cons] at h
    obtain ⟨m', hm', hr⟩ := Option.bind_eq_some_iff.1 h
    exact ih (hm.readKey hmissing hm') hr

theorem readFrom_of_readMap {value : β → β} {missing : Map β → Option (Map β)} {m r : Map β}
    (hmissing : ∀ m₁ m₂, missing m₁ = some m₂ → m₂ = m₁) (h : readMap value missing m = some r) :
    ReadFrom value m r := by
  rcases readMap_cases value missing m with ⟨-, heq⟩ | ⟨-, heq | heq⟩
  · rw [heq] at h
    exact .foldlM hmissing _ (.empty value m) h
  · rw [heq] at h
    cases h
  · rw [heq] at h
    cases h
    exact .empty value m

theorem readMap_eq_iff {value : β → β} {missing : Map β → Option (Map β)} {m : Map β}
    (hmissing : ∀ m₁ m₂, missing m₁ = some m₂ → m₂ = m₁) :
    readMap value missing m = some m ↔
      ((∀ k ∈ m, NulFree k) ∧ ∀ (k : String) (v : β), m[k]? = some v → value v = v) ∧
        m.size < 2 ^ 16 := by
  constructor
  · intro h
    have hread := readFrom_of_readMap hmissing h
    refine ⟨⟨fun k hk => ?_, fun k v hv => ?_⟩, ?_⟩
    · obtain ⟨v, hv⟩ := Option.isSome_iff_exists.1 (ExtTreeMap.mem_iff_isSome_getElem?.1 hk)
      exact (hread k v hv).1
    · obtain ⟨-, w, hw, hvw⟩ := hread k v hv
      cases hw.symm.trans hv
      exact hvw.symm
    · rcases readMap_cases value missing m with ⟨hs, -⟩ | ⟨hs, heq | heq⟩
      · exact hs
      · rw [heq] at h
        cases h
      · rw [heq] at h
        rw [← Option.some.inj h, ExtTreeMap.size_empty]
        norm_num
  · rintro ⟨⟨hk, hv⟩, hs⟩
    exact readMap_eq missing hk hv hs

/-- What `writeMap` has written has no NUL in its keys, and values of the form it writes. -/
theorem writeMap_entry {value : β → β} {m : Map β} {k : String} {v : β}
    (h : (writeMap value m)[k]? = some v) : NulFree k ∧ ∃ w, v = value w := by
  have hfold : ∀ (l : List (String × β)) (acc : Map β),
      (∀ (k : String) (v : β), acc[k]? = some v → NulFree k ∧ ∃ w, v = value w) →
      ∀ (k : String) (v : β),
        (l.foldl (fun m' p => m'.insert (CStr.ofString p.1).text (value p.2)) acc)[k]? = some v →
          NulFree k ∧ ∃ w, v = value w := by
    intro l
    induction l with
    | nil => exact fun acc hacc => hacc
    | cons p l ih =>
      intro acc hacc
      refine ih _ fun k v hk => ?_
      rw [ExtTreeMap.getElem?_insert] at hk
      split at hk
      · next hc =>
        cases hk
        rw [← compare_eq_iff_eq.1 hc]
        exact ⟨(CStr.ofString p.1).nulFree, p.2, rfl⟩
      · exact hacc k v hk
  refine hfold m.toList ∅ (fun k v hk => ?_) k v h
  rw [ExtTreeMap.getElem?_empty] at hk
  cases hk

end CInterop
