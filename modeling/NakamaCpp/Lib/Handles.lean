import Mathlib

/-!
# Registries of handles

A registry keeps objects under their addresses.  A function that saves some new objects, runs
other code and destroys them again leaves the registry as it found it, if that code does
(`destroyAll_saveAll`); functions that call each other do so like brackets (`Brackets`).  A program
that only uses handles of objects that are there sees separate objects (`Represents`).
-/

namespace Handles

open Std

variable {α : Type}

abbrev Registry (α : Type) := ExtTreeMap Nat α

/-- New objects: at addresses that are not taken, and each at its own. -/
def Fresh (g : Registry α) (l : List (Nat × α)) : Prop :=
  (l.map Prod.fst).Nodup ∧ ∀ e ∈ l, e.1 ∉ g

instance (g : Registry α) (l : List (Nat × α)) : Decidable (Fresh g l) :=
  inferInstanceAs (Decidable (_ ∧ _))

/-- Objects are saved, one after the other. -/
def saveAll (g : Registry α) (l : List (Nat × α)) : Registry α :=
  l.foldl (fun g e => g.insertIfNew e.1 e.2) g

/-- They are destroyed. -/
def destroyAll (g : Registry α) (l : List (Nat × α)) : Registry α :=
  l.foldl (fun g e => g.erase e.1) g

@[simp] theorem saveAll_nil (g : Registry α) : saveAll g [] = g := rfl

@[simp] theorem destroyAll_nil (g : Registry α) : destroyAll g [] = g := rfl

theorem getElem?_saveAll {g : Registry α} {l : List (Nat × α)} {a : Nat}
    (h : a ∉ l.map Prod.fst) : (saveAll g l)[a]? = g[a]? := by
  induction l generalizing g with
  | nil => rfl
  | cons e l ih =>
    rw [List.map_cons, List.mem_cons, not_or] at h
    show (saveAll (g.insertIfNew e.1 e.2) l)[a]? = g[a]?
    rw [ih h.2, ExtTreeMap.getElem?_insertIfNew, if_neg]
    rw [LawfulEqOrd.compare_eq_iff_eq]
    exact fun hc => h.1 hc.1.symm

theorem getElem?_destroyAll (g : Registry α) (l : List (Nat × α)) (a : Nat) :
    (destroyAll g l)[a]? = if a ∈ l.map Prod.fst then none else g[a]? := by
  induction l generalizing g with
  | nil => rfl
  | cons e l ih =>
    show (destroyAll (g.erase e.1) l)[a]? = _
    rw [ih, ExtTreeMap.getElem?_erase]
    simp only [List.map_cons, List.mem_cons, LawfulEqOrd.compare_eq_iff_eq]
    by_cases hl : a ∈ l.map Prod.fst
    · rw [if_pos hl, if_pos (.inr hl)]
    · rw [if_neg hl]
      by_cases he : a = e.1
      · rw [if_pos he.symm, if_pos (.inl he)]
      · rw [if_neg fun h => he h.symm, if_neg fun h => h.elim he hl]

/-- New objects that are destroyed again leave nothing behind. -/
theorem destroyAll_saveAll {g : Registry α} {l : List (Nat × α)} (h : Fresh g l) :
    destroyAll (saveAll g l) l = g := by
  ext a : 1
  rw [getElem?_destroyAll]
  split
  · next ha =>
    obtain ⟨e, he, rfl⟩ := List.mem_map.1 ha
    exact (ExtTreeMap.getElem?_eq_none (h.2 e he)).symm
  · next ha => exact getElem?_saveAll ha

/-- New objects that are not destroyed are left behind. -/
theorem saveAll_ne {g : Registry α} {l : List (Nat × α)} (h : Fresh g l) (hne : l ≠ []) :
    saveAll g l ≠ g := by
  obtain ⟨e, l, rfl⟩ := List.exists_cons_of_ne_nil hne
  intro heq
  have hnew : e.1 ∉ g := h.2 e List.mem_cons_self
  have hlast : e.1 ∉ l.map Prod.fst := (List.nodup_cons.1 h.1).1
  have hsaved : (saveAll (g.insertIfNew e.1 e.2) l)[e.1]? = some e.2 := by
    rw [getElem?_saveAll hlast, ExtTreeMap.getElem?_insertIfNew, if_pos ⟨compare_self, hnew⟩]
  have hg : (saveAll (g.insertIfNew e.1 e.2) l)[e.1]? = g[e.1]? := congrArg (·[e.1]?) heq
  rw [hsaved, ExtTreeMap.getElem?_eq_none hnew] at hg
  cases hg

/-! ## Brackets -/

/-- A call that has not ended: the registry that it has found, and what it has saved. -/
structure OpenCall (γ σ : Type) where
  before : γ
  saved : σ

variable {γ σ : Type}

/-- The calls that have not ended, innermost first: each has saved what it has on top of what it
has found, which is what the one around it has left; the outermost has found `base`. -/
def Brackets (save : γ → σ → γ) (fresh : γ → σ → Prop) (base : γ) : List (OpenCall γ σ) → γ → Prop
  | [], g => g = base
  | b :: bs, g => g = save b.before b.saved ∧ fresh b.before b.saved ∧
    Brackets save fresh base bs b.before

section
variable {save destroy : γ → σ → γ} {fresh : γ → σ → Prop} {base g : γ} {b : OpenCall γ σ}
  {bs : List (OpenCall γ σ)}

theorem Brackets.opens (h : Brackets save fresh base bs g) {saved : σ} (hfresh : fresh g saved) :
    Brackets save fresh base (⟨g, saved⟩ :: bs) (save g saved) :=
  ⟨rfl, hfresh, h⟩

/-- A call that ends leaves what it has found. -/
theorem Brackets.closes (hundo : ∀ g saved, fresh g saved → destroy (save g saved) saved = g)
    (h : Brackets save fresh base (b :: bs) g) :
    destroy g b.saved = b.before ∧ Brackets save fresh base bs b.before := by
  obtain ⟨rfl, hfresh, hrest⟩ := h
  exact ⟨hundo _ _ hfresh, hrest⟩

end

/-! ## Objects -/

/-- An object, and the address that nobody needs to know; `none` when it is destroyed. -/
abbrev Object (α : Type) := Nat × Option α

/-- The objects that are there are found by their handles, each at its own address, and nothing else
is found. -/
structure Represents (s : List (Object α)) (handles : List Nat) (find : Nat → Option α) : Prop where
  handles : handles = s.map Prod.fst
  found : ∀ addr a, find addr = some a ↔ (addr, some a) ∈ s
  nonNull : ∀ addr a, (addr, some a) ∈ s → addr ≠ 0
  apart : ∀ (i j addr : Nat) (a a' : α), s[i]? = some (addr, some a) →
    s[j]? = some (addr, some a') → i = j

namespace Represents

variable {s : List (Object α)} {handles : List Nat} {find find' : Nat → Option α} {i addr : Nat}
  {a : α}

theorem nil (hnone : ∀ addr, find addr = none) : Represents [] [] find where
  handles := rfl
  found addr a := by
    rw [hnone]
    exact iff_of_false (Option.some_ne_none a).symm List.not_mem_nil
  nonNull addr a h := absurd h List.not_mem_nil
  apart i j addr a a' h := by
    rw [List.getElem?_nil] at h
    cases h

/-- A handle finds its object. -/
theorem find_handle (h : Represents s handles find) (hi : s[i]? = some (addr, some a)) :
    handles[i]? = some addr ∧ addr ≠ 0 ∧ find addr = some a := by
  have hmem := List.mem_of_getElem? hi
  refine ⟨?_, h.nonNull _ _ hmem, (h.found _ _).2 hmem⟩
  rw [h.handles, List.getElem?_map, hi]
  rfl

theorem find_new (h : Represents s handles find) (hnew : ∀ a, (addr, some a) ∉ s) :
    find addr = none := by
  cases hfind : find addr with
  | none => rfl
  | some a => exact absurd ((h.found _ _).1 hfind) (hnew a)

/-- A new object. -/
theorem add (h : Represents s handles find) (hnull : addr ≠ 0) (hnew : ∀ a, (addr, some a) ∉ s)
    (hfind : ∀ x, find' x = if x = addr then some a else find x) :
    Represents (s ++ [(addr, some a)]) (handles ++ [addr]) find' := by
  have hmem : ∀ x b, (x, some b) ∈ s ++ [(addr, some a)] ↔ (x, some b) ∈ s ∨ x = addr ∧ b = a := by
    intro x b
    simp only [List.mem_append, List.mem_singleton, Prod.mk.injEq, Option.some.injEq]
  refine ⟨?_, ?_, ?_, ?_⟩
  · rw [h.handles, List.map_append, List.map_singleton]
  · intro x b
    rw [hfind, hmem]
    by_cases hx : x = addr
    · rw [if_pos hx, Option.some.injEq]
      refine ⟨fun hb => .inr ⟨hx, hb.symm⟩, fun hb => ?_⟩
      rcases hb with hb | hb
      · exact absurd (hx ▸ hb) (hnew b)
      · exact hb.2.symm
    · rw [if_neg hx, h.found]
      exact ⟨.inl, fun hb => hb.resolve_right fun hc => hx hc.1⟩
  · intro x b hb
    rcases (hmem x b).1 hb with hb | hb
    · exact h.nonNull x b hb
    · exact hb.1 ▸ hnull
  · -- an object at the new address can only be the new one
    intro i j x b b' hi hj
    have hplace : ∀ (i x : Nat) (b : α), (s ++ [(addr, some a)])[i]? = some (x, some b) →
        x ≠ addr ∧ s[i]? = some (x, some b) ∨ x = addr ∧ i = s.length := by
      intro i x b hi
      have hlt := (List.getElem?_eq_some_iff.1 hi).1
      rw [List.length_append, List.length_singleton] at hlt
      by_cases hil : i < s.length
      · rw [List.getElem?_append_left hil] at hi
        exact .inl ⟨fun hx => hnew b (hx ▸ List.mem_of_getElem? hi), hi⟩
      · obtain rfl : i = s.length := by omega
        rw [List.getElem?_concat_length] at hi
        cases hi
        exact .inr ⟨rfl, rfl⟩
    rcases hplace i x b hi with ⟨hx, hi⟩ | ⟨hx, rfl⟩
    · rcases hplace j x b' hj with ⟨-, hj⟩ | ⟨hx', -⟩
      · exact h.apart i j x b b' hi hj
      · exact absurd hx' hx
    · rcases hplace j x b' hj with ⟨hx', -⟩ | ⟨-, rfl⟩
      · exact absurd hx hx'
      · rfl

/-- One object changes, or goes, and so does what is found at its address. -/
theorem set (h : Represents s handles find) (hi : s[i]? = some (addr, some a)) {o : Option α}
    (hfind : ∀ x, find' x = if x = addr then o else find x) :
    Represents (s.set i (addr, o)) handles find' := by
  have hlt := (List.getElem?_eq_some_iff.1 hi).1
  have hplace : ∀ j x b, (s.set i (addr, o))[j]? = some (x, some b) →
      j = i ∧ x = addr ∧ o = some b ∨ j ≠ i ∧ x ≠ addr ∧ s[j]? = some (x, some b) := by
    intro j x b hj
    by_cases hji : j = i
    · subst hji
      rw [List.getElem?_set_self hlt, Option.some.injEq, Prod.mk.injEq] at hj
      exact .inl ⟨rfl, hj.1.symm, hj.2⟩
    · rw [List.getElem?_set_ne (Ne.symm hji)] at hj
      refine .inr ⟨hji, fun hx => hji ?_, hj⟩
      exact h.apart j i addr b a (hx ▸ hj) hi
  refine ⟨?_, ?_, ?_, ?_⟩
  · obtain ⟨hlt', heq⟩ := List.getElem?_eq_some_iff.1 (h.find_handle hi).1
    rw [List.map_set, ← h.handles]
    conv_rhs => rw [show (addr, o).1 = handles[i] from heq.symm, List.set_getElem_self]
  · intro x b
    rw [hfind]
    by_cases hx : x = addr
    · rw [if_pos hx, hx]
      constructor
      · rintro rfl
        exact List.mem_of_getElem? (List.getElem?_set_self hlt)
      · intro hb
        obtain ⟨j, hj⟩ := List.getElem?_of_mem hb
        rcases hplace j _ b hj with ⟨-, -, ho⟩ | ⟨-, hx, -⟩
        · exact ho
        · exact absurd rfl hx
    · rw [if_neg hx, h.found]
      constructor
      · intro hb
        obtain ⟨j, hj⟩ := List.getElem?_of_mem hb
        have hji : j ≠ i := by
          rintro rfl
          rw [hi, Option.some.injEq, Prod.mk.injEq] at hj
          exact hx hj.1.symm
        exact List.mem_of_getElem? ((List.getElem?_set_ne (Ne.symm hji)).trans hj)
      · intro hb
        obtain ⟨j, hj⟩ := List.getElem?_of_mem hb
        rcases hplace j x b hj with ⟨-, hc, -⟩ | ⟨-, -, hj⟩
        · exact absurd hc hx
        · exact List.mem_of_getElem? hj
  · intro x b hb
    obtain ⟨j, hj⟩ := List.getElem?_of_mem hb
    rcases hplace j x b hj with ⟨-, rfl, -⟩ | ⟨-, -, hj⟩
    · exact h.nonNull _ _ (List.mem_of_getElem? hi)
    · exact h.nonNull _ _ (List.mem_of_getElem? hj)
  · intro j j' x b b' hj hj'
    rcases hplace j x b hj with ⟨rfl, hx, -⟩ | ⟨-, hx, hj⟩
    · rcases hplace j' x b' hj' with ⟨rfl, -, -⟩ | ⟨-, hx', -⟩
      · rfl
      · exact absurd hx hx'
    · rcases hplace j' x b' hj' with ⟨rfl, hx', -⟩ | ⟨-, -, hj'⟩
      · exact absurd hx' hx
      · exact h.apart j j' x b b' hj hj'

end Represents

end Handles
