import NakamaCpp.CApi.RtWrapper
import NakamaCpp.Lib.Handles
import NakamaCpp.Lib.Lockstep

/-!
# Maps behind handles

Model of src/nakama-c/NStringMapC.cpp and NStringDoubleMapC.cpp, which are the same but for the
values, and of the two loops that carry a map over the C interface.  A handle is the address of the
map, null is 0; `none` is a null pointer that is dereferenced, or a `std::string` of one.

    a program that uses maps it has not destroyed  →  each map is an object of its own, wherever
      the allocator puts it                                                        (maps_refine)
    a map that is passed at a new handle is read as the functions on values say, and leaves
      nothing behind                                                               (maps_passed)
-/

namespace NakamaCpp.CApi

open Rest CInterop Handles Lockstep Std

/-! ## The functions -/

/-- What the values of a map are in C, how they are stored and how they are given out. -/
structure CValue (β : Type) where
  C : Type
  store : C → β
  load : β → C

/-- `const char*`. -/
def stringValue : CValue String := ⟨CStr, CStr.text, cStr⟩

def doubleValue : CValue Float := ⟨Float, id, id⟩

/-- A value that is given out, and stored again. -/
def CValue.cross {β : Type} (k : CValue β) (v : β) : β := k.store (k.load v)

/-- `g_maps`. -/
abbrev MapRegistry (β : Type) := Registry (Map β)

namespace MapRegistry

variable {β : Type}

/-- `saveNStringMap`, at the address `addr`. -/
def save (g : MapRegistry β) (addr : Nat) (map : Map β) : MapRegistry β := g.insertIfNew addr map

/-- `findNStringMap`. -/
def find (g : MapRegistry β) (handle : Nat) : Option (Map β) :=
  if handle = 0 then none else g[handle]?

/-- `NStringMap_create`. -/
def create (g : MapRegistry β) (addr : Nat) : MapRegistry β := g.save addr ∅

/-- `NStringMap_setValue`. -/
def setValue (k : CValue β) (g : MapRegistry β) (handle : Nat) (key : CStr) (value : k.C) :
    Option (MapRegistry β) :=
  (g.find handle).map fun map => g.insert handle (map.insert key.text (k.store value))

/-- `NStringMap_getValue`: null, or false, if the key is not there. -/
def getValue (k : CValue β) (g : MapRegistry β) (handle : Nat) (key : CStr) :
    Option (Option k.C) :=
  (g.find handle).map fun map => map[key.text]?.map k.load

/-- `NStringMap_getKeys`, into an array of `n` entries. -/
def getKeys (g : MapRegistry β) (handle n : Nat) : Option (List CStr) :=
  (g.find handle).bind fun map => writeKeys map n

/-- `NStringMap_getSize`. -/
def getSize (g : MapRegistry β) (handle : Nat) : Option UInt16 :=
  (g.find handle).map fun map => map.size.toUInt16

/-- `NStringMap_destroy`. -/
def destroy (g : MapRegistry β) (handle : Nat) : MapRegistry β :=
  if handle = 0 then g else g.erase handle

/-- `toCNStringMap`: a null pointer, or a new map that is filled through `c_str()`. -/
def toCMap (k : CValue β) (g : MapRegistry β) (addr : Nat) (map : Map β) :
    Option (MapRegistry β × Nat) :=
  if map.isEmpty then some (g, 0)
  else (map.toList.foldlM
    (fun g p => setValue k g addr (cStr p.1) (k.load p.2)) (g.create addr)).map (·, addr)

/-- `toCppNStringMap`; `missing` says what a key without a value does. -/
def toCppMap (k : CValue β) (missing : Map β → Option (Map β)) (g : MapRegistry β) (handle : Nat) :
    Option (Map β) :=
  if handle = 0 then some ∅
  else (g.getSize handle).bind fun size =>
    if 0 < size then
      (g.getKeys handle size.toNat).bind fun keys =>
        keys.foldlM (fun cppMap key => (getValue k g handle key).bind fun value =>
          match value with
          | some value => some (cppMap.insertIfNew key.text (k.store value))
          | none => missing cppMap) ∅
    else some ∅

/-- A map as a wrapper passes it to a function that reads it; it is destroyed afterwards. -/
def pass (k : CValue β) (missing : Map β → Option (Map β)) (g : MapRegistry β) (addr : Nat)
    (map : Map β) : Option (Map β × MapRegistry β) :=
  (toCMap k g addr map).bind fun r => (toCppMap k missing r.1 r.2).map (·, r.1.destroy r.2)

end MapRegistry

/-! ## Programs -/

/-- A call of a program that numbers the maps it has made. -/
inductive MapCall {β : Type} (k : CValue β)
  /-- a map is made, at an address that the allocator gives -/
  | save (addr : Nat) (map : Map β)
  | setValue (i : Nat) (key : CStr) (value : k.C)
  | getValue (i : Nat) (key : CStr)
  | getKeys (i n : Nat)
  | getSize (i : Nat)
  | destroy (i : Nat)

inductive MapResult {β : Type} (k : CValue β)
  | done
  | value (value : Option k.C)
  | keys (keys : List CStr)
  | size (size : UInt16)

/-- The registry, and the handles that the program has. -/
structure Handled (β : Type) where
  g : MapRegistry β := ∅
  handles : List Nat := []

namespace MapCall

variable {β : Type} {k : CValue β}

/-- A call of the C functions; the program stops at `none`. -/
def step (s : Handled β) : MapCall k → Handled β × Option (MapResult k)
  | .save addr map => ({ g := s.g.save addr map, handles := s.handles ++ [addr] }, some .done)
  | .setValue i key value =>
    match (s.handles[i]?).bind fun h => MapRegistry.setValue k s.g h key value with
    | some g => ({ s with g }, some .done)
    | none => (s, none)
  | .getValue i key => (s, ((s.handles[i]?).bind fun h => MapRegistry.getValue k s.g h key).map .value)
  | .getKeys i n => (s, ((s.handles[i]?).bind fun h => s.g.getKeys h n).map .keys)
  | .getSize i => (s, ((s.handles[i]?).bind fun h => s.g.getSize h).map .size)
  | .destroy i =>
    match s.handles[i]? with
    | some h => ({ s with g := s.g.destroy h }, some .done)
    | none => (s, none)

/-- What the calls are for: each map is an object of its own. -/
def objectStep (s : List (Object (Map β))) : MapCall k → List (Object (Map β)) × Option (MapResult k)
  | .save addr map => (s ++ [(addr, some map)], some .done)
  | .setValue i key value =>
    match s[i]? with
    | some (addr, some map) =>
      (s.set i (addr, some (map.insert key.text (k.store value))), some .done)
    | _ => (s, none)
  | .getValue i key =>
    (s, ((s[i]?).bind Prod.snd).map fun map => .value (map[key.text]?.map k.load))
  | .getKeys i n => (s, (((s[i]?).bind Prod.snd).bind fun map => writeKeys map n).map .keys)
  | .getSize i => (s, ((s[i]?).bind Prod.snd).map fun map => .size map.size.toUInt16)
  | .destroy i =>
    match s[i]? with
    | some (addr, some _) => (s.set i (addr, none), some .done)
    | _ => (s, none)

/-- A new map is where no other one is, and only maps that are there are used. -/
def Sound (s : List (Object (Map β))) : MapCall k → Prop
  | .save addr _ => addr ≠ 0 ∧ ∀ map, (addr, some map) ∉ s
  | .setValue i _ _ | .getValue i _ | .getKeys i _ | .getSize i | .destroy i =>
    ∃ addr map, s[i]? = some (addr, some map)

end MapCall

/-- What is in the registry is what is there. -/
def MapsKept {β : Type} (s : List (Object (Map β))) (t : Handled β) : Prop :=
  Represents s t.handles fun addr => t.g[addr]?

namespace MapsKept

variable {β : Type} {k : CValue β} {s : List (Object (Map β))} {t : Handled β}

theorem find (h : MapsKept s t) {i addr : Nat} {map : Map β} (hi : s[i]? = some (addr, some map)) :
    t.handles[i]? = some addr ∧ t.g.find addr = some map := by
  obtain ⟨hhandle, hnull, hfind⟩ := h.find_handle hi
  exact ⟨hhandle, (if_neg hnull).trans hfind⟩

theorem save (h : MapsKept s t) {addr : Nat} (hnull : addr ≠ 0) (hnew : ∀ map, (addr, some map) ∉ s)
    (map : Map β) :
    MapsKept (s ++ [(addr, some map)]) ⟨t.g.save addr map, t.handles ++ [addr]⟩ := by
  have hfree : addr ∉ t.g := by
    rw [ExtTreeMap.mem_iff_isSome_getElem?, h.find_new hnew]
    exact Bool.false_ne_true
  refine h.add hnull hnew fun a => ?_
  show (t.g.insertIfNew addr map)[a]? = _
  rw [ExtTreeMap.getElem?_insertIfNew]
  simp only [LawfulEqOrd.compare_eq_iff_eq]
  by_cases ha : a = addr
  · rw [if_pos ⟨ha.symm, ha ▸ hfree⟩, if_pos ha]
  · rw [if_neg fun hc => ha hc.1.symm, if_neg ha]

theorem setValue (h : MapsKept s t) {i addr : Nat} {map : Map β}
    (hi : s[i]? = some (addr, some map)) (map' : Map β) :
    MapsKept (s.set i (addr, some map')) { t with g := t.g.insert addr map' } := by
  refine h.set hi fun a => ?_
  rw [ExtTreeMap.getElem?_insert]
  simp only [LawfulEqOrd.compare_eq_iff_eq, @eq_comm _ addr]

theorem destroy (h : MapsKept s t) {i addr : Nat} {map : Map β}
    (hi : s[i]? = some (addr, some map)) :
    MapsKept (s.set i (addr, none)) { t with g := t.g.destroy addr } := by
  refine h.set hi fun a => ?_
  rw [MapRegistry.destroy, if_neg (h.find_handle hi).2.1, ExtTreeMap.getElem?_erase]
  simp only [LawfulEqOrd.compare_eq_iff_eq, @eq_comm _ addr]

theorem step (h : MapsKept s t) (c : MapCall k) (hc : c.Sound s) :
    MapsKept (c.objectStep s).1 (c.step t).1 ∧ (c.step t).2 = (c.objectStep s).2 := by
  cases c with
  | save addr map => exact ⟨h.save hc.1 hc.2 map, rfl⟩
  | setValue i key value =>
    obtain ⟨addr, map, hi⟩ := hc
    obtain ⟨hhandle, hfind⟩ := h.find hi
    simp only [MapCall.step, MapCall.objectStep, hhandle, hi, Option.bind_some,
      MapRegistry.setValue, hfind, Option.map_some, and_true]
    exact h.setValue hi _
  | getValue i key =>
    obtain ⟨addr, map, hi⟩ := hc
    obtain ⟨hhandle, hfind⟩ := h.find hi
    refine ⟨h, ?_⟩
    simp only [MapCall.step, MapCall.objectStep, hhandle, hi, Option.bind_some,
      MapRegistry.getValue, hfind, Option.map_some]
  | getKeys i n =>
    obtain ⟨addr, map, hi⟩ := hc
    obtain ⟨hhandle, hfind⟩ := h.find hi
    refine ⟨h, ?_⟩
    simp only [MapCall.step, MapCall.objectStep, hhandle, hi, Option.bind_some,
      MapRegistry.getKeys, hfind]
  | getSize i =>
    obtain ⟨addr, map, hi⟩ := hc
    obtain ⟨hhandle, hfind⟩ := h.find hi
    refine ⟨h, ?_⟩
    simp only [MapCall.step, MapCall.objectStep, hhandle, hi, Option.bind_some,
      MapRegistry.getSize, hfind, Option.map_some]
  | destroy i =>
    obtain ⟨addr, map, hi⟩ := hc
    simp only [MapCall.step, MapCall.objectStep, (h.find hi).1, hi, and_true]
    exact h.destroy hi

end MapsKept

/-- A program that only uses maps that are there cannot tell the registry, in which addresses are
used again, from a list of separate objects. -/
theorem maps_refine {β : Type} (k : CValue β) {calls : List (MapCall k)}
    (h : Guarded MapCall.objectStep MapCall.Sound [] calls) :
    outputs (fun s (c : MapCall k) => c.step s) {} calls =
      outputs (fun s (c : MapCall k) => c.objectStep s) [] calls := by
  have hstart : MapsKept [] ({} : Handled β) := .nil fun _ => ExtTreeMap.getElem?_empty
  have hstep : ∀ (s : List (Object (Map β))) (t : Handled β) (c : MapCall k), MapsKept s t →
      c.Sound s →
      MapsKept (c.objectStep s).1 (c.step t).1 ∧ (c.step t).2 = id (c.objectStep s).2 :=
    fun _ _ c hst hc => hst.step c hc
  rw [outputs_of_guarded hstep h hstart, List.map_id]

/-- The second map is where the first one was. -/
def reusedAddress : List (MapCall stringValue) :=
  [.save 8 ∅, .setValue 0 (cStr "mode") (cStr "ffa"), .destroy 0, .save 8 ∅,
    .getValue 1 (cStr "mode"), .getSize 1]

theorem maps_refine_reusedAddress :
    outputs (fun s (c : MapCall stringValue) => c.step s) {} reusedAddress =
      outputs (fun s (c : MapCall stringValue) => c.objectStep s) [] reusedAddress := by
  refine maps_refine stringValue ⟨⟨by decide, fun _ => List.not_mem_nil⟩, ⟨8, ∅, rfl⟩, ⟨8, _, rfl⟩,
    ⟨by decide, fun map h => ?_⟩, ⟨8, ∅, rfl⟩, ⟨8, ∅, rfl⟩, trivial⟩
  obtain ⟨-, hgone⟩ := Prod.mk.inj (List.mem_singleton.1 h)
  cases hgone

/-! ## Maps that are passed -/

namespace MapRegistry

variable {β : Type} {k : CValue β} {g : MapRegistry β} {addr : Nat}

theorem find_insert (hnull : addr ≠ 0) (map : Map β) : find (g.insert addr map) addr = some map := by
  rw [find, if_neg hnull, ExtTreeMap.getElem?_insert_self]

theorem insert_insert (map map' : Map β) :
    (g.insert addr map).insert addr map' = g.insert addr map' := by
  ext a : 1
  simp only [ExtTreeMap.getElem?_insert]
  split <;> rfl

theorem save_eq (hfree : addr ∉ g) (map : Map β) : g.save addr map = g.insert addr map := by
  ext a : 1
  rw [save, ExtTreeMap.getElem?_insertIfNew, ExtTreeMap.getElem?_insert]
  by_cases ha : compare addr a = .eq
  · rw [if_pos ⟨ha, hfree⟩, if_pos ha]
  · rw [if_neg fun hc => ha hc.1, if_neg ha]

theorem destroy_insert (hnull : addr ≠ 0) (hfree : addr ∉ g) (map : Map β) :
    destroy (g.insert addr map) addr = g := by
  rw [destroy, if_neg hnull]
  ext a : 1
  rw [ExtTreeMap.getElem?_erase, ExtTreeMap.getElem?_insert]
  by_cases ha : compare addr a = .eq
  · rw [if_pos ha, ← LawfulEqOrd.compare_eq_iff_eq.1 ha, ExtTreeMap.getElem?_eq_none hfree]
  · rw [if_neg ha, if_neg ha]

/-- The loop of `toCNStringMap` fills the new map, and nothing else. -/
theorem foldlM_setValue (hnull : addr ≠ 0) (l : List (String × β)) (map : Map β) :
    l.foldlM (fun g p => setValue k g addr (cStr p.1) (k.load p.2)) (g.insert addr map) =
      some (g.insert addr
        (l.foldl (fun m p => m.insert (cStr p.1).text (k.cross p.2)) map)) := by
  induction l generalizing map with
  | nil => rfl
  | cons p l ih =>
    have hset : setValue k (g.insert addr map) addr (cStr p.1) (k.load p.2) =
        some (g.insert addr (map.insert (cStr p.1).text (k.cross p.2))) := by
      rw [setValue, find_insert hnull, Option.map_some, insert_insert]
      rfl
    rw [List.foldlM_cons, hset]
    exact ih _

theorem toCMap_eq (hnull : addr ≠ 0) (hfree : addr ∉ g) {map : Map β}
    (hmap : map.isEmpty = false) :
    toCMap k g addr map = some (g.insert addr (writeMap k.cross map), addr) := by
  rw [toCMap, hmap, create, save_eq hfree, foldlM_setValue hnull]
  rfl

/-- The loop of `toCppNStringMap` is that of `readMap`. -/
theorem toCppMap_eq {missing : Map β → Option (Map β)} {handle : Nat} {map : Map β}
    (h : g.find handle = some map) : toCppMap k missing g handle = readMap k.cross missing map := by
  have hnull : handle ≠ 0 := by
    rintro rfl
    cases h
  have hkey : (fun (cppMap : Map β) key => (getValue k g handle key).bind fun value =>
      match value with
      | some value => some (cppMap.insertIfNew key.text (k.store value))
      | none => missing cppMap) = readKey k.cross missing map := by
    funext cppMap key
    rw [getValue, h, Option.map_some, Option.bind_some, readKey]
    cases map[key.text]? <;> rfl
  rw [toCppMap, if_neg hnull, hkey, getSize, h, Option.map_some, Option.bind_some, readMap,
    getKeys, h, Option.bind_some]

theorem pass_eq {missing : Map β → Option (Map β)} (hnull : addr ≠ 0) (hfree : addr ∉ g)
    (map : Map β) : pass k missing g addr map =
      ((if map.isEmpty then some ∅ else readMap k.cross missing (writeMap k.cross map)).map
        (·, g)) := by
  cases hmap : map.isEmpty with
  | true =>
    rw [pass, toCMap, hmap]
    rfl
  | false =>
    rw [pass, toCMap_eq hnull hfree hmap, Option.bind_some, toCppMap_eq (find_insert hnull _),
      destroy_insert hnull hfree]
    rfl

end MapRegistry

/-- `toCNStringMap` and `toCppNStringMap` of the other modules, which have no registry, are what the
loops over handles do; so for doubles. -/
theorem maps_passed {g : MapRegistry String} {g' : MapRegistry Float} {addr addr' : Nat}
    (hnull : addr ≠ 0) (hfree : addr ∉ g) (hnull' : addr' ≠ 0) (hfree' : addr' ∉ g')
    (strings : NStringMap) (doubles : NStringDoubleMap) :
    MapRegistry.pass stringValue (fun _ => none) g addr strings =
        (toCppNStringMap (toCNStringMap strings)).map (·, g) ∧
      MapRegistry.pass doubleValue some g' addr' doubles =
        (toCppNStringDoubleMap (toCNStringDoubleMap doubles)).map (·, g') := by
  refine ⟨?_, ?_⟩
  · rw [MapRegistry.pass_eq hnull hfree, toCNStringMap]
    cases strings.isEmpty <;> rfl
  · rw [MapRegistry.pass_eq hnull' hfree', toCNStringDoubleMap]
    cases doubles.isEmpty <;> rfl

theorem maps_passed_rank :
    MapRegistry.pass stringValue (fun _ => none) (∅ : MapRegistry String) 8
        ((∅ : NStringMap).insert "mode" "ffa") =
      (toCppNStringMap (toCNStringMap ((∅ : NStringMap).insert "mode" "ffa"))).map (·, ∅) ∧
    MapRegistry.pass doubleValue some (∅ : MapRegistry Float) 8
        ((∅ : NStringDoubleMap).insert "rank" 1) =
      (toCppNStringDoubleMap (toCNStringDoubleMap
        ((∅ : NStringDoubleMap).insert "rank" 1))).map (·, ∅) :=
  maps_passed (by decide) ExtTreeMap.not_mem_empty (by decide) ExtTreeMap.not_mem_empty _ _

end NakamaCpp.CApi
