import NakamaCpp.Lib.Transcode

/-!
# Paths made of fixed segments and of ids

A path is written by joining fixed segments and ids with slashes, and read by splitting
it at the slashes and percent-decoding each segment.  Nothing is encoded when it is
written, and what reads it may see only a part of it.  An id that comes out of its own
segment as it went in had only characters that stand for themselves:

    p is a prefix of path t → Decodes (p.splitOn '/') t → every id is Plain    (plain_of_decodes)
    every id is Plain → Decodes ((path t).splitOn '/') t                      (decodes_path)
-/

namespace PathTemplate

open Transcode

/-! ## Definitions -/

/-- A segment of a path: always the same, or a hole that is filled with an id. -/
inductive Part
  | fixed (s : String)
  | hole (s : String)
deriving DecidableEq, Repr

def Part.chars : Part → List Char
  | .fixed s => s.toList
  | .hole s => s.toList

/-- The text of a part that is always the same. -/
def Part.fixed? : Part → Option String
  | .fixed s => some s
  | .hole _ => none

/-- The path of a template. -/
def path (t : List Part) : List Char := ['/'].intercalate (t.map Part.chars)

/-- Each id is what its segment decodes to. -/
def Decodes (segments : List (List Char)) (t : List Part) : Prop :=
  ∀ (k : Nat) (s : String), t[k]? = some (Part.hole s) →
    (segments[k]?.bind fun seg => percentDecode (String.ofList seg)) = some s

/-- A text of legal characters that neither end a segment nor encode another one. -/
def Plain (legal : Char → Bool) (s : String) : Prop :=
  ∀ c ∈ s.toList, legal c = true ∧ c ≠ '/' ∧ c ≠ '%'

instance (legal : Char → Bool) (s : String) : Decidable (Plain legal s) :=
  decidable_of_iff (s.toList.all fun c => legal c && c != '/' && c != '%') (by
    unfold Plain
    simp [List.all_eq_true, and_assoc])

/-! ## Percent-decoding -/

theorem bytes_eq (s : String) : s.toByteArray.data.toList = s.toList.flatMap String.utf8EncodeChar := by
  rw [← String.utf8Encode_toList, List.utf8Encode, List.toList_data_toByteArray]

/-- Decoding makes a text shorter unless nothing in it is encoded. -/
theorem percentDecodeBytes_length (bs : List UInt8) : ∀ ds, percentDecodeBytes bs = some ds →
    ds.length ≤ bs.length ∧ (bs.length ≤ ds.length → ds = bs ∧ 0x25 ∉ bs) := by
  induction bs using percentDecodeBytes.induct with
  | case1 =>
    intro ds h
    obtain rfl := Option.some.inj h
    exact ⟨le_rfl, fun _ => ⟨rfl, List.not_mem_nil⟩⟩
  | case2 h l bs ih =>
    intro ds h
    unfold percentDecodeBytes at h
    rw [if_pos rfl] at h
    simp only [Option.bind_eq_bind, Option.bind_eq_some_iff] at h
    obtain ⟨_, -, _, -, ds', hds, he⟩ := h
    obtain rfl := Option.some.inj he
    have := (ih ds' hds).1
    simp only [List.length_cons]
    exact ⟨by omega, by omega⟩
  | case3 bs hbs =>
    intro ds h
    unfold percentDecodeBytes at h
    rw [if_pos rfl] at h
    split at h
    · next h' l bs' => exact absurd rfl (hbs h' l bs')
    · cases h
  | case4 b bs hb ih =>
    intro ds h
    unfold percentDecodeBytes at h
    rw [if_neg hb, Option.map_eq_some_iff] at h
    obtain ⟨ds', hds, rfl⟩ := h
    obtain ⟨hle, heq⟩ := ih ds' hds
    simp only [List.length_cons]
    refine ⟨by omega, fun hlen => ?_⟩
    obtain ⟨rfl, hm⟩ := heq (by omega)
    refine ⟨rfl, ?_⟩
    rw [List.mem_cons, not_or]
    exact ⟨fun h => hb h.symm, hm⟩

theorem mem_bytes_percent {s : String} (h : '%' ∈ s.toList) : 0x25 ∈ s.toByteArray.data.toList := by
  rw [bytes_eq]
  exact List.mem_flatMap.2 ⟨'%', h, by decide⟩

/-- The byte of `%` is in no other character: all bytes of a longer encoding are above 127. -/
theorem eq_percent_of_mem {c : Char} (h : 0x25 ∈ String.utf8EncodeChar c) : c = '%' := by
  have hbyte : ∀ n, (0x25 : UInt8) = UInt8.ofNat n → n % 256 = 37 := by
    intro n hn
    have := congrArg UInt8.toNat hn
    rw [UInt8.toNat_ofNat'] at this
    exact this.symm
  unfold String.utf8EncodeChar at h
  dsimp only at h
  split at h
  · have := hbyte _ (List.mem_singleton.1 h)
    rw [← Char.ofNat_toNat c, show c.toNat = 37 by show c.val.toNat = 37; omega]
  · split at h
    · simp only [List.mem_cons, List.not_mem_nil, or_false] at h
      rcases h with h | h <;>
      · have := hbyte _ h
        omega
    · split at h
      · simp only [List.mem_cons, List.not_mem_nil, or_false] at h
        rcases h with h | h | h <;>
        · have := hbyte _ h
          omega
      · simp only [List.mem_cons, List.not_mem_nil, or_false] at h
        rcases h with h | h | h | h <;>
        · have := hbyte _ h
          omega

theorem percent_of_mem_bytes {s : String} (h : 0x25 ∈ s.toByteArray.data.toList) : '%' ∈ s.toList := by
  rw [bytes_eq] at h
  obtain ⟨c, hc, hb⟩ := List.mem_flatMap.1 h
  have : c = '%' := eq_percent_of_mem hb
  exact this ▸ hc

theorem percentDecode_of_not_mem {s : String} (h : '%' ∉ s.toList) : percentDecode s = some s := by
  unfold percentDecode
  rw [percentDecodeBytes_of_not_mem fun hm => h (percent_of_mem_bytes hm), Option.bind_some]
  show String.fromUTF8? ⟨s.toByteArray.data.toList.toArray⟩ = some s
  rw [Array.toArray_toList]
  exact dif_pos s.isValidUTF8

/-- What begins an id and decodes to all of it is the id, and has nothing encoded. -/
theorem eq_of_percentDecode {x : List Char} {s : String} (hx : x <+: s.toList)
    (h : percentDecode (String.ofList x) = some s) : x = s.toList ∧ '%' ∉ x := by
  obtain ⟨y, hy⟩ := hx
  unfold percentDecode at h
  obtain ⟨ds, hds, hs⟩ := Option.bind_eq_some_iff.1 h
  have hbytes : s.toByteArray.data.toList = ds := by
    unfold String.fromUTF8? at hs
    split at hs
    · rw [← Option.some.inj hs]
      rfl
    · cases hs
  have hsplit : s.toByteArray.data.toList =
      (String.ofList x).toByteArray.data.toList ++ y.flatMap String.utf8EncodeChar := by
    rw [bytes_eq, bytes_eq, ← hy, String.toList_ofList, List.flatMap_append]
  obtain ⟨-, heq⟩ := percentDecodeBytes_length _ ds hds
  have hlen := congrArg List.length hsplit
  rw [hbytes, List.length_append] at hlen
  obtain ⟨he, hm⟩ := heq (by omega)
  rw [hbytes, he] at hsplit
  have hnil : y.flatMap String.utf8EncodeChar = [] := List.self_eq_append_right.1 hsplit
  have hy0 : y = [] := by
    cases y with
    | nil => rfl
    | cons c y =>
      rw [List.flatMap_cons, List.append_eq_nil_iff] at hnil
      have := congrArg List.length hnil.1
      rw [String.length_utf8EncodeChar, List.length_nil] at this
      exact absurd this (Char.utf8Size_pos c).ne'
  rw [hy0, List.append_nil] at hy
  refine ⟨hy, fun hp => hm (mem_bytes_percent ?_)⟩
  rw [String.toList_ofList]
  exact hp

/-! ## Segments -/

/-- A template with other ids has the same fixed parts. -/
theorem getElem?_fixed {t t' : List Part} (h : t'.map Part.fixed? = t.map Part.fixed?) {k : Nat}
    {s : String} (hk : t[k]? = some (Part.fixed s)) : t'[k]? = some (Part.fixed s) := by
  have hm := congrArg (fun l => l[k]?) h
  simp only [List.getElem?_map, hk, Option.map_some] at hm
  obtain ⟨part, hpart, hf⟩ := Option.map_eq_some_iff.1 hm
  cases part with
  | fixed f =>
    obtain rfl := Option.some.inj hf
    exact hpart
  | hole i => cases hf

theorem path_cons {part : Part} {t : List Part} (ht : t ≠ []) :
    path (part :: t) = part.chars ++ '/' :: path t := by
  unfold path
  rw [List.map_cons, List.intercalate_cons_of_ne_nil (by simpa using ht)]
  simp

theorem path_singleton (part : Part) : path [part] = part.chars := List.intercalate_singleton

/-- A path consists of slashes and of the characters of its parts. -/
theorem mem_path {t : List Part} {c : Char} (h : c ∈ path t) : c = '/' ∨ ∃ part ∈ t, c ∈ part.chars := by
  induction t with
  | nil => cases h
  | cons part t ih =>
    by_cases ht : t = []
    · rw [ht, path_singleton] at h
      exact .inr ⟨part, List.mem_cons_self, h⟩
    · rw [path_cons ht] at h
      rcases List.mem_append.1 h with h | h
      · exact .inr ⟨part, List.mem_cons_self, h⟩
      · rcases List.mem_cons.1 h with h | h
        · exact .inl h
        · rcases ih h with h | ⟨part', hp, hc⟩
          · exact .inl h
          · exact .inr ⟨part', List.mem_cons_of_mem _ hp, hc⟩

/-- A path of parts without slashes has the parts for its segments. -/
theorem splitOn_path {t : List Part} (ht : t ≠ []) (h : ∀ part ∈ t, '/' ∉ part.chars) :
    (path t).splitOn '/' = t.map Part.chars := by
  refine List.splitOn_intercalate '/' (fun l hl => ?_) (by simpa using ht)
  obtain ⟨part, hp, rfl⟩ := List.mem_map.1 hl
  exact h part hp

/-- What comes before the first slash. -/
theorem prefix_of_not_mem {a x r : List Char} (h : a <+: x ++ '/' :: r) (ha : '/' ∉ a) : a <+: x := by
  rcases List.prefix_or_prefix_of_prefix h (List.prefix_append x _) with h' | ⟨y, rfl⟩
  · exact h'
  · rw [List.prefix_append_right_inj] at h
    cases y with
    | nil => simp
    | cons c y =>
      rw [(List.cons_prefix_cons.1 h).1] at ha
      simp at ha

theorem prefix_tail {a b x r : List Char} (h : a ++ '/' :: b <+: x ++ '/' :: r) (ha : '/' ∉ a)
    (hx : '/' ∉ x) : a = x ∧ b <+: r := by
  obtain ⟨z, hz⟩ := h
  rw [List.append_assoc, List.cons_append] at hz
  have hs := congrArg (List.splitOn '/') hz
  rw [List.splitOn_append_cons_self_of_not_mem ha, List.splitOn_append_cons_self_of_not_mem hx] at hs
  obtain rfl := (List.cons.inj hs).1
  exact ⟨rfl, z, (List.cons.inj (List.append_cancel_left hz)).2⟩

/-- The first segment of a text, and what is left if there is a slash. -/
theorem splitOn_head (p : List Char) :
    '/' ∉ p ∧ p.splitOn '/' = [p] ∨
      ∃ a b, p = a ++ '/' :: b ∧ '/' ∉ a ∧ p.splitOn '/' = a :: b.splitOn '/' := by
  by_cases hm : '/' ∈ p
  · obtain ⟨a, b, rfl, ha⟩ := List.eq_append_cons_of_mem hm
    exact .inr ⟨a, b, rfl, ha, List.splitOn_append_cons_self_of_not_mem ha b⟩
  · exact .inl ⟨hm, List.splitOn_eq_singleton hm⟩

theorem Decodes.tail {seg : List Char} {segs : List (List Char)} {part : Part} {t : List Part}
    (h : Decodes (seg :: segs) (part :: t)) : Decodes segs t := fun k s hk => by
  have := h (k + 1) s (by rwa [List.getElem?_cons_succ])
  rwa [List.getElem?_cons_succ] at this

theorem Decodes.head {seg : List Char} {segs : List (List Char)} {s : String} {t : List Part}
    (h : Decodes (seg :: segs) (.hole s :: t)) : percentDecode (String.ofList seg) = some s := by
  have := h 0 s rfl
  rwa [List.getElem?_cons_zero, Option.bind_some] at this

/-- Ids that have no segment are not decoded. -/
theorem Decodes.nil {t : List Part} (h : Decodes [] t) (s : String) : Part.hole s ∉ t := by
  intro hm
  obtain ⟨k, hk⟩ := List.mem_iff_getElem?.1 hm
  have := h k s hk
  rw [List.getElem?_nil] at this
  cases this

/-- One part: a segment that begins the id it decodes to is the id. -/
theorem plain_head {legal : Char → Bool} {seg : List Char} {segs : List (List Char)} {part : Part}
    {t : List Part} (hseg : seg <+: part.chars) (hslash : '/' ∉ seg)
    (hl : ∀ c ∈ seg, legal c = true) (h : Decodes (seg :: segs) (part :: t)) {s : String}
    (hs : part = .hole s) : seg = s.toList ∧ Plain legal s := by
  subst hs
  obtain ⟨he, hp⟩ := eq_of_percentDecode hseg h.head
  refine ⟨he, ?_⟩
  intro c hc
  rw [← he] at hc
  refine ⟨hl c hc, ?_, ?_⟩
  · rintro rfl
    exact hslash hc
  · rintro rfl
    exact hp hc

/-- Ids that come out of a part of the path as they went in are plain, and are their
segments. -/
theorem plain_of_decodes {legal : Char → Bool} {t : List Part}
    (hfix : ∀ s, Part.fixed s ∈ t → '/' ∉ s.toList) :
    ∀ {p : List Char}, p <+: path t → (∀ c ∈ p, legal c = true) → Decodes (p.splitOn '/') t →
      ∀ (k : Nat) (s : String), t[k]? = some (Part.hole s) →
        (p.splitOn '/')[k]? = some s.toList ∧ Plain legal s := by
  induction t with
  | nil => exact fun _ _ _ k s hk => by simp at hk
  | cons part t ih =>
    intro p hp hl hd k s hk
    -- the first segment, and what is known of its part
    obtain ⟨seg, segs, hsplit, hseg, hslash, hsub⟩ : ∃ seg segs, p.splitOn '/' = seg :: segs ∧
        seg <+: part.chars ∧ '/' ∉ seg ∧ ∀ c ∈ seg, c ∈ p := by
      have hpre : ∀ a, a <+: p → '/' ∉ a → a <+: part.chars := by
        intro a ha hna
        have := ha.trans hp
        by_cases ht : t = []
        · rwa [ht, path_singleton] at this
        · rw [path_cons ht] at this
          exact prefix_of_not_mem this hna
      rcases splitOn_head p with ⟨hn, he⟩ | ⟨a, b, rfl, hn, he⟩
      · exact ⟨p, [], he, hpre p List.prefix_rfl hn, hn, fun c hc => hc⟩
      · exact ⟨a, _, he, hpre a (List.prefix_append a _) hn, hn,
          fun c hc => List.mem_append_left _ hc⟩
    have hd' := hd
    rw [hsplit] at hd'
    have hhead : ∀ s, part = .hole s → seg = s.toList ∧ Plain legal s := fun s hs =>
      plain_head hseg hslash (fun c hc => hl c (hsub c hc)) hd' hs
    cases k with
    | zero =>
      obtain ⟨he, hplain⟩ := hhead s (Option.some.inj hk)
      rw [hsplit, he]
      exact ⟨rfl, hplain⟩
    | succ k =>
      rw [List.getElem?_cons_succ] at hk
      have hm := List.mem_of_getElem? hk
      have ht : t ≠ [] := List.ne_nil_of_mem hm
      have hpart : '/' ∉ part.chars := by
        cases part with
        | fixed f => exact hfix f List.mem_cons_self
        | hole i => exact fun hm => ((hhead i rfl).2 '/' hm).2.1 rfl
      rw [path_cons ht] at hp
      rcases splitOn_head p with ⟨hn, he⟩ | ⟨a, b, rfl, hn, he⟩
      · obtain ⟨-, rfl⟩ := List.cons.inj (hsplit.symm.trans he)
        exact absurd hm (hd'.tail.nil s)
      · rw [he] at hd ⊢
        rw [List.getElem?_cons_succ]
        exact ih (fun f hf => hfix f (List.mem_cons_of_mem _ hf)) (prefix_tail hp hn hpart).2
          (fun c hc => hl c (List.mem_append_right _ (List.mem_cons_of_mem _ hc))) hd.tail k s hk

/-- Plain ids come out of the path as they went in. -/
theorem decodes_path {legal : Char → Bool} {t : List Part}
    (h : ∀ s, Part.hole s ∈ t → Plain legal s) : Decodes (t.map Part.chars) t := by
  intro k s hk
  rw [List.getElem?_map, hk]
  show percentDecode (String.ofList s.toList) = some s
  rw [String.ofList_toList]
  exact percentDecode_of_not_mem fun hm => (h s (List.mem_of_getElem? hk) '%' hm).2.2 rfl

end PathTemplate
